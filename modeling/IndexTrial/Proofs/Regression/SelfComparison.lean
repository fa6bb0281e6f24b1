import IndexTrial.Proofs.Binary64.Division
import IndexTrial.Proofs.Regression.Checking
import IndexTrial.Run.Summary
import IndexTrial.Settings.Check

/-!
Measurements compared with the baseline that was taken from them. Every first measurement of a key
finds its own values again, so that its ratios are one. The file of the baseline gives the same
comparisons, provided that the latencies in it are finite.
-/

namespace IndexTrial

open Binary64 (zero one)

/-- A ratio of one is within the limits. -/
structure Thresholds.Tolerant (t : Thresholds) : Prop where
  latency : one.le t.latencyWarning = true
  size : one.le t.sizeWarning = true

theorem Settings.tolerant_of_problem? {s : Settings} (h : s.problem? = none) :
    s.thresholds.Tolerant := by
  rw [problem?_eq_none_iff] at h
  have hlatency := h (one.lt s.thresholds.latencyWarning,.latencyWarning s.thresholds.latencyWarning)
    (by simp [rules])
  have hsize := h (one.lt s.thresholds.sizeWarning,.sizeWarning s.thresholds.sizeWarning)
    (by simp [rules])
  exact ⟨Binary64.le_of_lt hlatency,Binary64.le_of_lt hsize⟩

namespace Detector

/-- One for a positive latency; a latency of zero is not compared. -/
def ownLatencyRatio? (p50 : Binary64) : Option Binary64 := if zero.lt p50 then some one else none

/-- One for a known positive size; others are not compared. -/
def ownSizeRatio? (size : Option Nat) : Option Binary64 :=
  size.bind fun n => if 0 < n then some one else none

/-- The comparison of values with themselves. -/
def ownComparison? (p50 : Binary64) (size : Option Nat) : Option Comparison :=
  if (ownLatencyRatio? p50).isNone && (ownSizeRatio? size).isNone then none
  else some
    { latency := (ownLatencyRatio? p50).map fun _ => .ok, latencyRatio := ownLatencyRatio? p50
      size := (ownSizeRatio? size).map fun _ => .ok, sizeRatio := ownSizeRatio? size }

variable {t : Thresholds} {p50 : Binary64} {size : Option Nat}

theorem latencyRatio?_own (hp50 : p50.isFinite = true) (n : Nat) :
    latencyRatio? p50 ⟨p50,n⟩ = ownLatencyRatio? p50 := by
  unfold latencyRatio? ownLatencyRatio?
  split
  · rename_i hpos
    rw [Binary64.div_self hpos hp50]
  · rfl

theorem sizeRatio?_own (hsize : ∀ n ∈ size, n < 2 ^ 64) :
    sizeRatio? size ⟨p50,size.getD 0⟩ = ownSizeRatio? size := by
  cases size with
  | none => rfl
  | some n =>
    simp only [sizeRatio?,ownSizeRatio?,Option.getD_some,Option.bind_some]
    split
    · rename_i hpos
      obtain ⟨hlt,hfinite⟩ := Binary64.ofNat_positive hpos (hsize n rfl)
      rw [Binary64.div_self hlt hfinite]
    · rfl

theorem compare?_own (ht : t.Tolerant) {s : LatencySummary} (hs : s.p50.isFinite = true)
    (hsize : ∀ n ∈ size, n < 2 ^ 64) :
    compare? t s size ⟨s.p50,size.getD 0⟩ = ownComparison? s.p50 size := by
  have hlatency : (ownLatencyRatio? s.p50).map t.latencyVerdict =
      (ownLatencyRatio? s.p50).map fun _ => .ok := by
    unfold ownLatencyRatio?
    split <;> simp [Thresholds.latencyVerdict,ht.latency]
  have hbytes : (ownSizeRatio? size).map t.sizeVerdict =
      (ownSizeRatio? size).map fun _ => .ok := by
    cases size with
    | none => rfl
    | some n =>
      simp only [ownSizeRatio?,Option.bind_some]
      split <;> simp [Thresholds.sizeVerdict,ht.size]
  unfold compare? ownComparison?
  dsimp only
  rw [latencyRatio?_own hs,sizeRatio?_own hsize,hlatency,hbytes]

theorem ownComparison?_of_pos (hpos : zero.lt p50 = true) (size : Option Nat) :
    ownComparison? p50 size = some
      { latency := some .ok, latencyRatio := some one
        size := (ownSizeRatio? size).map fun _ => .ok, sizeRatio := ownSizeRatio? size } := by
  have hlatency : ownLatencyRatio? p50 = some one := if_pos hpos
  simp [ownComparison?,hlatency]

/-- Values compared with themselves are never worse. -/
theorem worst_ownComparison? {c : Comparison} (h : ownComparison? p50 size = some c) :
    c.worst = .ok := by
  unfold ownComparison? at h
  split at h
  · simp at h
  · obtain rfl := Option.some.inj h
    cases ownLatencyRatio? p50 <;> cases ownSizeRatio? size <;> rfl

variable {d : Detector} {ms : List Measurement}

theorem countSeverity_attach (hd : d.hasBaseline = true) (severity : Nat) :
    RunSummary.countSeverity (d.attach ms) severity =
      ms.countP fun m => (d.check m).any fun c => c.worst.severity == severity := by
  simp [RunSummary.countSeverity,attach,hd,List.countP_map,Function.comp_def]

end Detector

namespace Baseline

variable {t : Thresholds} {engine : String} {ms : List Measurement} {m : Measurement}
  {b : Baseline}

theorem isAccepted_iff : m.isAccepted engine = true ↔
    m.engine = engine ∧ m.status = .ok ∧ ∃ s, m.summary = some s := by
  simp [Measurement.isAccepted,Option.isSome_iff_exists,and_assoc]

/-- A first measurement is compared with its own values. -/
theorem check_firstAccepted? (ht : t.Tolerant) (hsize : ∀ n ∈ m.indexSize, n < 2 ^ 64)
    (hb : b.find? m.key = (ofMeasurements engine ms).find? m.key)
    (hfirst : firstAccepted? engine ms m.key = some m) {x : Binary64} (hx : m.p50 = some x)
    (hfinite : x.isFinite = true) :
    (Detector.mk (some b) t engine).check m = Detector.ownComparison? x m.indexSize := by
  obtain ⟨s,hs,rfl⟩ := Option.map_eq_some_iff.mp hx
  have haccepted : m.isAccepted engine = true := by
    have := List.find?_some hfirst
    simp only [Bool.and_eq_true] at this
    exact this.1
  obtain ⟨hengine,hstatus,-⟩ := isAccepted_iff.mp haccepted
  have hfind : b.find? m.key = some ⟨s.p50,m.indexSize.getD 0⟩ := by
    rw [hb,find?_eq_firstAccepted?,hfirst]
    simp [valuesOf?,hs]
  have hcompare := Detector.compare?_own ht hfinite hsize
  simp [Detector.check,hengine,hstatus,hs,hfind,hcompare]

theorem firstAccepted?_of_nodup (hkeys : ((ms.filter (·.isAccepted engine)).map (·.key)).Nodup)
    (hm : m ∈ ms) (haccepted : m.isAccepted engine = true) :
    firstAccepted? engine ms m.key = some m := by
  have hsome : (firstAccepted? engine ms m.key).isSome := by
    simp only [firstAccepted?,List.find?_isSome]
    exact ⟨m,hm,by simp [haccepted]⟩
  obtain ⟨m',hfirst⟩ := Option.isSome_iff_exists.mp hsome
  have hm' := List.find?_some hfirst
  simp only [Bool.and_eq_true,beq_iff_eq] at hm'
  have hsame : m' = m := List.inj_on_of_nodup_map hkeys
    (List.mem_filter.mpr ⟨List.mem_of_find?_eq_some hfirst,hm'.1⟩)
    (List.mem_filter.mpr ⟨hm,haccepted⟩) hm'.2
  rw [hfirst,hsame]

/-- If no key repeats, whatever comparison there is finds nothing worse. -/
theorem worst_of_check (ht : t.Tolerant) (hsize : ∀ n ∈ m.indexSize, n < 2 ^ 64)
    (hb : b.find? m.key = (ofMeasurements engine ms).find? m.key)
    (hkeys : ((ms.filter (·.isAccepted engine)).map (·.key)).Nodup) (hm : m ∈ ms)
    (hfinite : m.isAccepted engine = true → ∀ x ∈ m.p50, x.isFinite = true) {c : Comparison}
    (hc : (Detector.mk (some b) t engine).check m = some c) : c.worst = .ok := by
  obtain ⟨hengine,hstatus,s,-,-,hs,-⟩ := Detector.check_eq_some_iff.mp hc
  have haccepted : m.isAccepted engine = true := isAccepted_iff.mpr ⟨hengine,hstatus,s,hs⟩
  have hx : m.p50 = some s.p50 := by simp [Measurement.p50,hs]
  rw [check_firstAccepted? ht hsize hb (firstAccepted?_of_nodup hkeys hm haccepted) hx
    (hfinite haccepted _ hx)] at hc
  exact Detector.worst_ownComparison? hc

/-- Compared with the baseline, every first measurement of a key is as it was: the verdict on its
latency is favourable with a ratio of one, and so is that on its size if there is one. If no key
repeats, nothing in the summary of the run is a regression. -/
structure Agrees (t : Thresholds) (engine : String) (ms : List Measurement) (b : Baseline) :
    Prop where
  first : ∀ (i : Nat) (m : Measurement) (x : Binary64), ms[i]? = some m →
    firstAccepted? engine ms m.key = some m → m.p50 = some x → x.isFinite = true →
    zero.lt x = true → ∃ c, (((Detector.mk (some b) t engine).attach ms)[i]?).bind (·.comparison) =
      some c ∧ c.latency = some .ok ∧ c.latencyRatio = some one ∧
      (∀ n, m.indexSize = some n → 0 < n → c.size = some .ok ∧ c.sizeRatio = some one) ∧
      ((∀ n, m.indexSize = some n → n = 0) → c.size = none ∧ c.sizeRatio = none)
  clean : ((ms.filter (·.isAccepted engine)).map (·.key)).Nodup →
    (∀ m ∈ ms, m.isAccepted engine = true → ∀ x ∈ m.p50, x.isFinite = true) →
    ∀ (limits : AdviceThresholds) (pair : EnginePair) (truncated : Bool) (outcomes : List Outcome),
      let summary := RunSummary.ofRun limits pair truncated outcomes
        ((Detector.mk (some b) t engine).attach ms)
      summary.verdicts.warning = 0 ∧ summary.verdicts.critical = 0 ∧
        summary.hasRegressions = false

/-- A baseline with the entries of the measurements agrees with them. -/
theorem agrees_of_find? (ht : t.Tolerant) (hsize : ∀ m ∈ ms, ∀ n ∈ m.indexSize, n < 2 ^ 64)
    (hb : ∀ k, b.find? k = (ofMeasurements engine ms).find? k) : Agrees t engine ms b where
  first i m x hi hfirst hx hfinite hpos := by
    have hm := List.mem_of_getElem? hi
    have hcheck := check_firstAccepted? ht (hsize m hm) (hb m.key) hfirst hx hfinite
    rw [Detector.getElem?_attach (Option.some_ne_none b),hi,Option.map_some,Option.bind_some,hcheck,
      Detector.ownComparison?_of_pos hpos]
    refine ⟨_,rfl,rfl,rfl,fun n hn hbytes => ?_,fun hnone => ?_⟩
    · simp [Detector.ownSizeRatio?,hn,hbytes]
    · have hratio : Detector.ownSizeRatio? m.indexSize = none := by
        cases hn : m.indexSize with
        | none => rfl
        | some n => simp [Detector.ownSizeRatio?,hnone n hn]
      simp [hratio]
  clean hkeys hfinite limits pair truncated outcomes := by
    have hcount : ∀ severity, 0 < severity → RunSummary.countSeverity
        ((Detector.mk (some b) t engine).attach ms) severity = 0 := by
      intro severity hseverity
      rw [Detector.countSeverity_attach rfl,List.countP_eq_zero]
      intro m hm hany
      obtain ⟨c,hc,hsame⟩ := (Option.any_eq_true _ _).mp hany
      rw [worst_of_check ht (hsize m hm) (hb m.key) hkeys hm (hfinite m hm) hc,beq_iff_eq] at hsame
      exact hseverity.ne hsame
    intro summary
    have hwarning : summary.verdicts.warning = 0 := hcount 1 (by decide)
    have hcritical : summary.verdicts.critical = 0 := hcount 2 (by decide)
    exact ⟨hwarning,hcritical,by simp [RunSummary.hasRegressions,hwarning,hcritical]⟩

/-- The latency of a first measurement is in the file, as it is. -/
theorem mem_entries_of_firstAccepted? {k : BaselineKey} {x : Binary64}
    (hfirst : firstAccepted? engine ms k = some m) (hx : m.p50 = some x) :
    (k,⟨x,m.indexSize.getD 0⟩) ∈ (ofMeasurements engine ms).entries := by
  obtain ⟨s,hs,rfl⟩ := Option.map_eq_some_iff.mp hx
  have hfind : (ofMeasurements engine ms).find? k = some ⟨s.p50,m.indexSize.getD 0⟩ := by
    rw [find?_eq_firstAccepted?,hfirst]
    simp [valuesOf?,hs]
  exact BaselineEntries.mem_of_find? hfind

theorem load_of_commit_not_finite {now : Moment} {path : String} {files files' : FileTree}
    (hnow : now.Valid) (hsize : ∀ m ∈ ms, ∀ n ∈ m.indexSize, n < 2 ^ 64) {k : BaselineKey}
    {x : Binary64} (hfirst : firstAccepted? engine ms k = some m) (hx : m.p50 = some x)
    (hnot : x.isFinite = false)
    (hcommit : (ofMeasurements engine ms).commit now path files = (.ok (),files')) :
    load files' path = .error (.baseline s!"{path}: not a baseline") :=
  load_of_perform_unreadable (ofDocument?_document_eq_none (indexBytes_ofMeasurements hsize) hnow
    (mem_entries_of_firstAccepted? hfirst hx) hnot) (commit_eq_ok_iff.mp hcommit)

/-- Complete measurements of two queries, the first with a given latency. -/
def twoQueries (p50 : Binary64) : List Measurement :=
  [sampled "point" "smol" .hot p50 none,sampled "range" "smol" .hot .one (some 8192)]

theorem commit_twoQueries (p50 : Binary64) : ∃ files,
    (ofMeasurements "smol" (twoQueries p50)).commit ⟨2,0⟩ "b.json" ⟨[]⟩ = (.ok (),files) := by
  have hsteps : ∀ text, ∃ files, (FileTree.mk []).perform (replacement (.read "b.json") text) =
      (files,none) := fun _ => ⟨_,rfl⟩
  obtain ⟨files,hfiles⟩ := hsteps _
  exact ⟨files,commit_eq_ok_iff.mpr hfiles⟩

theorem finite_twoQueries {k : BaselineKey}
    (hfirst : firstAccepted? "smol" (twoQueries .one) k = some m) :
    ∀ x ∈ m.p50, x.isFinite = true := by
  have hm := List.mem_of_find?_eq_some hfirst
  simp only [twoQueries,List.mem_cons,List.not_mem_nil,or_false] at hm
  rcases hm with rfl | rfl <;> simp [sampled,Measurement.p50] <;> decide

/-- Measurements agree with the baseline taken from them, under any limits that are accepted. The
file of the baseline gives one that they agree with as well if all latencies in it are finite, and
none otherwise. -/
theorem agrees_with_own_baseline {settings : Settings} (hsettings : settings.problem? = none)
    (engine : String) (hsize : ∀ m ∈ ms, ∀ n ∈ m.indexSize, n < 2 ^ 64) :
    Agrees settings.thresholds engine ms (ofMeasurements engine ms) ∧
    ∀ (now : Moment) (path : String) (files files' : FileTree), now.Valid →
      (ofMeasurements engine ms).commit now path files = (.ok (),files') →
      ((∀ k m, firstAccepted? engine ms k = some m → ∀ x ∈ m.p50, x.isFinite = true) →
        ∃ b, load files' path = .ok (some b) ∧ Agrees settings.thresholds engine ms b) ∧
      ((∃ k m, firstAccepted? engine ms k = some m ∧ ∃ x ∈ m.p50, x.isFinite = false) →
        load files' path = .error (.baseline s!"{path}: not a baseline")) := by
  have ht := Settings.tolerant_of_problem? hsettings
  refine ⟨agrees_of_find? ht hsize fun _ => rfl,fun now path files files' hnow hcommit => ⟨?_,?_⟩⟩
  · intro hfinite
    have hload := (storable_ofMeasurements hfinite hsize).load_of_perform hnow
      (commit_eq_ok_iff.mp hcommit)
    exact ⟨_,hload,agrees_of_find? ht hsize fun _ => rfl⟩
  · rintro ⟨k,m,hfirst,x,hx,hnot⟩
    exact load_of_commit_not_finite hnow hsize hfirst hx hnot hcommit

theorem agrees_with_own_baseline_twoQueries :
    (∃ c files b, (((Detector.mk (some (ofMeasurements "smol" (twoQueries .one))) .standard
        "smol").attach (twoQueries .one))[1]?).bind (·.comparison) = some c ∧
      c.latencyRatio = some one ∧ c.sizeRatio = some one ∧
      (ofMeasurements "smol" (twoQueries .one)).commit ⟨2,0⟩ "b.json" ⟨[]⟩ = (.ok (),files) ∧
      load files "b.json" = .ok (some b) ∧ Agrees .standard "smol" (twoQueries .one) b) ∧
    ∃ files, (ofMeasurements "smol" (twoQueries .nan)).commit ⟨2,0⟩ "b.json" ⟨[]⟩ =
        (.ok (),files) ∧
      load files "b.json" = .error (.baseline "b.json: not a baseline") := by
  have hsettings : ({} : Settings).problem? = none := by decide
  have hnow : (Moment.mk 2 0).Valid := ⟨by decide,by decide,by decide⟩
  constructor
  · have hsizes : ∀ m ∈ twoQueries .one, ∀ n ∈ m.indexSize, n < 2 ^ 64 := by decide
    obtain ⟨hown,hfile⟩ := agrees_with_own_baseline hsettings "smol" hsizes
    obtain ⟨c,hc,-,hlatency,hsize,-⟩ := hown.first 1 _ one rfl (by decide) rfl (by decide) (by decide)
    obtain ⟨files,hcommit⟩ := commit_twoQueries .one
    obtain ⟨b,hload,hagrees⟩ := (hfile _ _ _ files hnow hcommit).1 fun _ _ => finite_twoQueries
    exact ⟨c,files,b,hc,hlatency,(hsize 8192 rfl (by decide)).2,hcommit,hload,hagrees⟩
  · have hsizes : ∀ m ∈ twoQueries .nan, ∀ n ∈ m.indexSize, n < 2 ^ 64 := by decide
    obtain ⟨files,hcommit⟩ := commit_twoQueries .nan
    have hload := ((agrees_with_own_baseline hsettings "smol" hsizes).2 _ _ _ files hnow hcommit).2
      ⟨⟨"dimension_1k","point",.hot⟩,_,rfl,_,rfl,by decide⟩
    exact ⟨files,hcommit,hload⟩

/-- With a latency that is not a number the file is lost, and so is the comparison of the other
measurement. -/
theorem own_baseline_lost_in_file : ∃ files m,
    (ofMeasurements "smol" (twoQueries .nan)).commit ⟨2,0⟩ "b.json" ⟨[]⟩ = (.ok (),files) ∧
    (twoQueries .nan)[1]? = some m ∧
    firstAccepted? "smol" (twoQueries .nan) m.key = some m ∧ m.p50 = some one ∧
    load files "b.json" = .error (.baseline "b.json: not a baseline") ∧
    (((Detector.mk (loadUsable files "b.json") .standard "smol").attach
      (twoQueries .nan))[1]?).bind (·.comparison) = none := by
  obtain ⟨files,hcommit⟩ := commit_twoQueries .nan
  have hnow : (Moment.mk 2 0).Valid := ⟨by decide,by decide,by decide⟩
  have hload := load_of_commit_not_finite (x := .nan) (k := ⟨"dimension_1k","point",.hot⟩)
    (m := sampled "point" "smol" .hot .nan none) hnow (by decide) rfl rfl (by decide) hcommit
  have hnone : loadUsable files "b.json" = none := by
    unfold loadUsable
    rw [hload]
  refine ⟨files,_,hcommit,rfl,by decide,rfl,hload,?_⟩
  rw [hnone]
  rfl

end Baseline

end IndexTrial
