import IndexTrial.Proofs.Regression.Acceptance

/-!
When a measurement has a verdict, and which. A verdict needs an entry under the measurement's own
key, of which at least one value can be compared with. Each of the two metrics is judged by its own
ratio, and the worse of them speaks for the comparison. Attaching verdicts touches nothing else.
-/

namespace IndexTrial

namespace Thresholds

/-- The verdict on a latency ratio. A NaN is within no limit. -/
inductive JudgesLatency (t : Thresholds) (ratio : Binary64) : Verdict → Prop
  | ok (h : ratio.le t.latencyWarning = true) : JudgesLatency t ratio .ok
  | warning (h : ratio.le t.latencyWarning = false) (h' : ratio.le t.latencyCritical = true) :
    JudgesLatency t ratio (.warning ratio)
  | critical (h : ratio.le t.latencyWarning = false) (h' : ratio.le t.latencyCritical = false) :
    JudgesLatency t ratio (.critical ratio)

/-- The verdict on a size ratio, which is never critical. -/
inductive JudgesSize (t : Thresholds) (ratio : Binary64) : Verdict → Prop
  | ok (h : ratio.le t.sizeWarning = true) : JudgesSize t ratio .ok
  | warning (h : ratio.le t.sizeWarning = false) : JudgesSize t ratio (.warning ratio)

variable {t : Thresholds} {ratio : Binary64}

theorem judgesLatency (t : Thresholds) (ratio : Binary64) :
    t.JudgesLatency ratio (t.latencyVerdict ratio) := by
  unfold latencyVerdict
  split
  · exact .ok ‹_›
  · rename_i hwarning
    split
    · exact .warning (Bool.eq_false_iff.mpr hwarning) ‹_›
    · exact .critical (Bool.eq_false_iff.mpr hwarning) (Bool.eq_false_iff.mpr ‹_›)

theorem latencyVerdict_of_isNaN (h : ratio.isNaN = true) :
    t.latencyVerdict ratio = .critical ratio := by
  have hbeyond : ∀ limit, ratio.le limit = false := by simp [Binary64.le,h]
  simp [latencyVerdict,hbeyond]

theorem judgesSize (t : Thresholds) (ratio : Binary64) :
    t.JudgesSize ratio (t.sizeVerdict ratio) := by
  unfold sizeVerdict
  split
  · exact .ok ‹_›
  · exact .warning (Bool.eq_false_iff.mpr ‹_›)

end Thresholds

namespace Comparison

/-- One of the verdicts of a comparison. -/
def Part (c : Comparison) (v : Verdict) : Prop := c.latency = some v ∨ c.size = some v

def HasCritical (c : Comparison) : Prop := ∃ ratio, c.Part (.critical ratio)

def HasWarning (c : Comparison) : Prop := ∃ ratio, c.Part (.warning ratio)

/-- The verdict that speaks for a comparison is as bad as its worst part. -/
structure SpeaksFor (c : Comparison) (worst : Verdict) : Prop where
  critical : (∃ ratio, worst = .critical ratio) ↔ c.HasCritical
  warning : (∃ ratio, worst = .warning ratio) ↔ ¬c.HasCritical ∧ c.HasWarning
  ok : worst = .ok ↔ ¬c.HasCritical ∧ ¬c.HasWarning

theorem speaksFor_worst (c : Comparison) : c.SpeaksFor c.worst := by
  obtain ⟨latency,_,size,_⟩ := c
  rcases latency with _ | _ | _ | _ <;> rcases size with _ | _ | _ | _ <;> constructor <;>
    simp [worst,Verdict.worse,Verdict.severity,HasCritical,HasWarning,Part]

/-- What a comparison of a measured latency and size with an entry says of each of them. -/
structure Judges (c : Comparison) (t : Thresholds) (p50 : Binary64) (bytes : Option Nat)
    (e : BaselineEntry) : Prop where
  latency : Binary64.zero.lt e.p50 = true → c.latencyRatio = some (p50.div e.p50) ∧
    ∃ v, c.latency = some v ∧ t.JudgesLatency (p50.div e.p50) v
  latency_nan : Binary64.zero.lt e.p50 = true → (p50.div e.p50).isNaN = true →
    c.latency = some (.critical (p50.div e.p50))
  latency_none : Binary64.zero.lt e.p50 = false → c.latencyRatio = none ∧ c.latency = none
  size : ∀ n, bytes = some n → 0 < e.indexBytes →
    c.sizeRatio = some ((Binary64.ofNat n).div (.ofNat e.indexBytes)) ∧
    ∃ v, c.size = some v ∧ t.JudgesSize ((Binary64.ofNat n).div (.ofNat e.indexBytes)) v
  size_none : bytes = none ∨ e.indexBytes = 0 → c.sizeRatio = none ∧ c.size = none
  worst : c.SpeaksFor c.worst

end Comparison

/-- A value of the entry that can be compared with: a positive latency, or a positive size beside a
known one. -/
def BaselineEntry.Usable (e : BaselineEntry) (bytes : Option Nat) : Prop :=
  Binary64.zero.lt e.p50 = true ∨ (∃ n, bytes = some n) ∧ 0 < e.indexBytes

namespace Detector

open Baseline (sampled)

variable {d : Detector} {m : Measurement} {c : Comparison} {t : Thresholds} {s : LatencySummary}
  {bytes : Option Nat} {e : BaselineEntry}

theorem latencyRatio?_eq_none {p50 : Binary64} :
    latencyRatio? p50 e = none ↔ Binary64.zero.lt e.p50 = false := by
  simp [latencyRatio?]

theorem sizeRatio?_eq_none : sizeRatio? bytes e = none ↔ bytes = none ∨ e.indexBytes = 0 := by
  cases bytes <;> simp [sizeRatio?]

theorem compare?_eq_none_iff : compare? t s bytes e = none ↔ ¬e.Usable bytes := by
  have hnone : compare? t s bytes e = none ↔
      latencyRatio? s.p50 e = none ∧ sizeRatio? bytes e = none := by
    unfold compare?
    dsimp only
    split <;> simp_all
  rw [hnone,latencyRatio?_eq_none,sizeRatio?_eq_none,BaselineEntry.Usable]
  cases bytes <;> simp

theorem judges_of_compare? (h : compare? t s bytes e = some c) : c.Judges t s.p50 bytes e := by
  unfold compare? at h
  dsimp only at h
  split at h
  · cases h
  obtain rfl := Option.some.inj h
  refine ⟨fun hpos => ?_,fun hpos hnan => ?_,fun hnot => ?_,fun n hn hpos => ?_,fun hnot => ?_,
    Comparison.speaksFor_worst _⟩
  · have hratio : latencyRatio? s.p50 e = some (s.p50.div e.p50) := if_pos hpos
    rw [hratio]
    exact ⟨rfl,_,rfl,t.judgesLatency _⟩
  · have hratio : latencyRatio? s.p50 e = some (s.p50.div e.p50) := if_pos hpos
    rw [hratio,Option.map_some,Thresholds.latencyVerdict_of_isNaN hnan]
  · rw [latencyRatio?_eq_none.mpr hnot]
    exact ⟨rfl,rfl⟩
  · have hratio : sizeRatio? bytes e = some ((Binary64.ofNat n).div (.ofNat e.indexBytes)) := by
      rw [hn]
      exact if_pos hpos
    rw [hratio]
    exact ⟨rfl,_,rfl,t.judgesSize _⟩
  · rw [sizeRatio?_eq_none.mpr hnot]
    exact ⟨rfl,rfl⟩

/-- When the detector has a verdict, and which. -/
theorem check_eq_some_iff : d.check m = some c ↔ m.engine = d.engine ∧ m.status = .ok ∧
    ∃ s b e, m.summary = some s ∧ d.baseline = some b ∧ b.find? m.key = some e ∧
      compare? d.thresholds s m.indexSize e = some c := by
  unfold check
  split
  · rename_i hnot
    constructor
    · intro h
      cases h
    · rintro ⟨hengine,hstatus,-⟩
      rcases hnot with hnot | hnot
      · exact absurd hengine hnot
      · exact absurd hstatus hnot
  · rename_i hboth
    obtain ⟨hengine,hstatus⟩ : m.engine = d.engine ∧ m.status = .ok := by simpa using hboth
    simp [Option.bind_eq_some_iff,hengine,hstatus]

/-- A measurement of the detector's engine is complete, and there is an entry under its own
workload, query and cache mode. -/
structure Finds (d : Detector) (m : Measurement) (s : LatencySummary) (e : BaselineEntry) :
    Prop where
  engine : m.engine = d.engine
  status : m.status = .ok
  summary : m.summary = some s
  entry : ∃ b, d.baseline = some b ∧ b.find? ⟨m.workload,m.query,m.mode⟩ = some e

theorem check_eq_some_iff_finds : d.check m = some c ↔
    ∃ s e, d.Finds m s e ∧ compare? d.thresholds s m.indexSize e = some c := by
  rw [check_eq_some_iff]
  constructor
  · rintro ⟨hengine,hstatus,s,b,e,hs,hb,he,hc⟩
    exact ⟨s,e,⟨hengine,hstatus,hs,b,hb,he⟩,hc⟩
  · rintro ⟨s,e,⟨hengine,hstatus,hs,b,hb,he⟩,hc⟩
    exact ⟨hengine,hstatus,s,b,e,hs,hb,he,hc⟩

theorem check_isSome_iff : (d.check m).isSome = true ↔
    ∃ s e, d.Finds m s e ∧ e.Usable m.indexSize := by
  rw [Option.isSome_iff_exists]
  constructor
  · rintro ⟨c,hc⟩
    obtain ⟨s,e,hfinds,hcompare⟩ := check_eq_some_iff_finds.mp hc
    refine ⟨s,e,hfinds,?_⟩
    by_contra hnot
    simp [compare?_eq_none_iff.mpr hnot] at hcompare
  · rintro ⟨s,e,hfinds,husable⟩
    obtain ⟨c,hc⟩ := Option.ne_none_iff_exists'.mp
      (mt (compare?_eq_none_iff (t := d.thresholds) (s := s)).mp (not_not.mpr husable))
    exact ⟨c,check_eq_some_iff_finds.mpr ⟨s,e,hfinds,hc⟩⟩

theorem check_eq_none_of_baseline (h : d.baseline = none) : d.check m = none := by
  cases hcheck : d.check m with
  | none => rfl
  | some c =>
    obtain ⟨-,-,s,b,e,-,hb,-⟩ := check_eq_some_iff.mp hcheck
    simp [h] at hb

/-- A verdict does not depend on the verdict that was there. -/
theorem check_with_comparison (d : Detector) (m : Measurement) (c : Option Comparison) :
    d.check { m with comparison := c } = d.check m := rfl

theorem attach_of_baseline (h : d.baseline = none) (ms : List Measurement) : d.attach ms = ms := by
  simp [attach,hasBaseline,h]

theorem getElem?_attach (h : d.baseline ≠ none) (ms : List Measurement) (i : Nat) :
    (d.attach ms)[i]? = ms[i]?.map fun m => { m with comparison := d.check m } := by
  have hbaseline : d.hasBaseline = true := Option.isSome_iff_ne_none.mpr h
  simp [attach,hbaseline]

theorem attach_attach (d : Detector) (ms : List Measurement) :
    d.attach (d.attach ms) = d.attach ms := by
  by_cases h : d.baseline = none
  · rw [attach_of_baseline h,attach_of_baseline h]
  · apply List.ext_getElem?
    intro i
    rw [getElem?_attach h,getElem?_attach h,Option.map_map]
    simp only [Function.comp_def,check_with_comparison]

/-- Nothing but the verdict of a measurement is new. -/
theorem exists_of_mem_attach {ms : List Measurement} (hm : m ∈ d.attach ms) :
    ∃ n ∈ ms, ∃ c, m = { n with comparison := c } := by
  by_cases h : d.baseline = none
  · rw [attach_of_baseline h] at hm
    exact ⟨m,hm,m.comparison,rfl⟩
  · obtain ⟨i,hi⟩ := List.mem_iff_getElem?.mp hm
    rw [getElem?_attach h] at hi
    obtain ⟨n,hn,rfl⟩ := Option.map_eq_some_iff.mp hi
    exact ⟨n,List.mem_of_getElem? hn,d.check n,rfl⟩

/-- A measurement has the verdict of the detector, whatever the detector has to compare it with. -/
theorem comparison_of_mem_attach {ms : List Measurement} (hnone : ∀ m ∈ ms, m.comparison = none)
    (hm : m ∈ d.attach ms) : m.comparison = d.check m := by
  by_cases h : d.baseline = none
  · rw [attach_of_baseline h] at hm
    rw [hnone m hm,check_eq_none_of_baseline h]
  · obtain ⟨i,hi⟩ := List.mem_iff_getElem?.mp hm
    rw [getElem?_attach h] at hi
    obtain ⟨n,-,rfl⟩ := Option.map_eq_some_iff.mp hi
    rfl

/-- The rule of verdicts. A measurement has one exactly if there is an entry for it with a usable
value; it judges each metric by its ratio to a usable value, and is as bad as the worse of both.
Attaching sets the verdicts in place and nothing else, without a baseline nothing at all, and a
second time nothing more. -/
theorem check_rule (d : Detector) :
    (∀ m, (d.check m).isSome = true ↔ ∃ s e, d.Finds m s e ∧ e.Usable m.indexSize) ∧
    (∀ m c, d.check m = some c →
      ∃ s e, d.Finds m s e ∧ c.Judges d.thresholds s.p50 m.indexSize e) ∧
    ∀ ms, (d.attach ms).length = ms.length ∧
      (d.baseline ≠ none → ∀ i : ℕ,
        (d.attach ms)[i]? = ms[i]?.map fun m => { m with comparison := d.check m }) ∧
      (d.baseline = none → d.attach ms = ms ∧ ∀ m, d.check m = none) ∧
      ((∀ m ∈ ms, m.comparison = none) → ∀ m ∈ d.attach ms, m.comparison = d.check m) ∧
      d.attach (d.attach ms) = d.attach ms := by
  refine ⟨fun m => check_isSome_iff,fun m c hc => ?_,fun ms => ⟨length_attach d ms,?_,?_,?_,?_⟩⟩
  · obtain ⟨s,e,hfinds,hcompare⟩ := check_eq_some_iff_finds.mp hc
    exact ⟨s,e,hfinds,judges_of_compare? hcompare⟩
  · exact fun hbaseline => getElem?_attach hbaseline ms
  · exact fun hbaseline =>
      ⟨attach_of_baseline hbaseline ms,fun _ => check_eq_none_of_baseline hbaseline⟩
  · exact fun hnone m => comparison_of_mem_attach hnone
  · exact attach_attach d ms

/-- The entry of one query lacks a size, that of the other a latency. -/
def withGaps : Detector where
  baseline := some (.ofEntries "smol"
    [(⟨"dimension_1k","point",.hot⟩,⟨.ofNat 10,0⟩),(⟨"dimension_1k","range",.cold⟩,⟨.zero,4096⟩)])
  thresholds := .standard
  engine := "smol"

/-- Twice the latency is critical and twice the size a warning, each without the other metric; under
another cache mode there is nothing to compare with. -/
theorem check_rule_withGaps :
    (∃ s e, withGaps.Finds (sampled "point" "smol" .hot (.ofNat 20) (some 8192)) s e ∧
      e.Usable (some 8192)) ∧
    (∃ c, withGaps.check (sampled "point" "smol" .hot (.ofNat 20) (some 8192)) = some c ∧
      c.latency = some (.critical (.ofNat 2)) ∧ c.size = none ∧ c.HasCritical) ∧
    (∃ c, withGaps.check (sampled "range" "smol" .cold (.ofNat 5) (some 8192)) = some c ∧
      c.latency = none ∧ c.size = some (.warning (.ofNat 2)) ∧ ¬c.HasCritical ∧ c.HasWarning) ∧
    withGaps.check (sampled "point" "smol" .warm (.ofNat 20) (some 8192)) = none ∧
    ∀ m ∈ withGaps.attach [sampled "point" "smol" .hot (.ofNat 20) (some 8192)],
      m.comparison = withGaps.check m := by
  obtain ⟨hsome,hjudges,hattach⟩ := check_rule withGaps
  have hpoint : withGaps.check (sampled "point" "smol" .hot (.ofNat 20) (some 8192)) =
      some ⟨some (.critical (.ofNat 2)),some (.ofNat 2),none,none⟩ := by decide +kernel
  have hrange : withGaps.check (sampled "range" "smol" .cold (.ofNat 5) (some 8192)) =
      some ⟨none,none,some (.warning (.ofNat 2)),some (.ofNat 2)⟩ := by decide +kernel
  obtain ⟨_,_,-,hcritical⟩ := hjudges _ _ hpoint
  obtain ⟨_,_,-,hwarning⟩ := hjudges _ _ hrange
  refine ⟨(hsome _).mp (by rw [hpoint]; rfl),⟨_,hpoint,rfl,rfl,?_⟩,⟨_,hrange,rfl,rfl,?_⟩,?_,?_⟩
  · exact hcritical.worst.critical.mp ⟨_,rfl⟩
  · exact hwarning.worst.warning.mp ⟨_,rfl⟩
  · decide +kernel
  · exact (hattach _).2.2.2.1 (by decide)

end Detector

end IndexTrial
