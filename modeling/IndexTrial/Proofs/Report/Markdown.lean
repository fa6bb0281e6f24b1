import IndexTrial.Proofs.Run.Advice
import IndexTrial.Proofs.Text.Digits
import IndexTrial.Report.Markdown

/-!
The Markdown report of a run. It has a section for each workload and a row for each query in it, with
what both engines' results of the query say. Where there is advice on a workload, the row of its query
has the two medians that the advice compares.
-/

namespace IndexTrial

variable {a : Artifact} {suite : List Workload} {w : Workload} {q : Query} {engine : String}
  {base cand m : Measurement} {k : ResultKey} {r : PairedRow}

/-- The one result of a run that has a key. -/
def Artifact.HasOnly (a : Artifact) (k : ResultKey) (m : Measurement) : Prop :=
  ∀ n, n ∈ a.results ∧ n.resultKey = k ↔ n = m

namespace Artifact.HasOnly

theorem mem (h : a.HasOnly k m) : m ∈ a.results := ((h m).mpr rfl).1

theorem resultKey (h : a.HasOnly k m) : m.resultKey = k := ((h m).mpr rfl).2

end Artifact.HasOnly

theorem DistinctNames.hasOnly (h : DistinctNames a.engines suite) (hw : w ∈ suite)
    (hengine : engine ∈ a.engines.toList)
    (hkeys : a.results.map Measurement.resultKey = suite.flatMap (Workload.resultKeys a.engines))
    (hm : m ∈ a.results) (hkey : m.resultKey = q.resultKey w.id engine) :
    a.HasOnly (q.resultKey w.id engine) m := by
  intro n
  constructor
  · rintro ⟨hn,hsame⟩
    exact h.result_inj hw hengine hkeys hn hm hsame hkey
  · intro hn
    rw [hn]
    exact ⟨hm,hkey⟩

/-- A run has one result for every query on either engine. -/
theorem DistinctNames.exists_hasOnly (h : DistinctNames a.engines suite) (hw : w ∈ suite)
    (hengine : engine ∈ a.engines.toList)
    (hkeys : a.results.map Measurement.resultKey = suite.flatMap (Workload.resultKeys a.engines))
    (hq : q ∈ w.queries) : ∃ m, a.HasOnly (q.resultKey w.id engine) m := by
  have hkey : q.resultKey w.id engine ∈ a.results.map Measurement.resultKey := by
    rw [hkeys]
    refine List.mem_flatMap.mpr ⟨w,hw,List.mem_flatMap.mpr ⟨engine,hengine,?_⟩⟩
    exact List.mem_map_of_mem hq
  obtain ⟨m,hm,hkey⟩ := List.mem_map.mp hkey
  exact ⟨m,h.hasOnly hw hengine hkeys hm hkey⟩

/-- The row of a candidate measurement. -/
def rowOf (engines : EnginePair) (ms : List Measurement) (c : Measurement) : PairedRow :=
  ⟨c,ms.find? fun b => b.workload = c.workload ∧ b.engine = engines.baseline ∧
    b.query = c.query ∧ b.mode = c.mode⟩

theorem pairedRows_eq (engines : EnginePair) (ms : List Measurement) (workload : String) :
    pairedRows engines ms workload =
      (ms.filter fun m => m.workload = workload ∧ m.engine = engines.candidate).map
        (rowOf engines ms) := by
  have hours : (ms.filter fun m => m.workload == workload).filter
      (fun m => m.engine == engines.candidate) =
      ms.filter fun m => m.workload = workload ∧ m.engine = engines.candidate := by
    rw [List.filter_filter]
    congr 1
    funext m
    rw [Bool.eq_iff_iff]
    simp [and_comm]
  unfold pairedRows
  simp only [hours]
  refine List.map_congr_left fun c hc => ?_
  have hworkload : c.workload = workload := by
    simpa using (of_decide_eq_true (List.mem_filter.mp hc).2).1
  rw [rowOf,List.find?_filter,hworkload]
  congr 2
  funext b
  simp [and_assoc]

theorem forall₂_of_mem {α β : Type*} {R S : α → β → Prop} {xs : List α} {ys : List β}
    (h : List.Forall₂ R xs ys) (hRS : ∀ x ∈ xs, ∀ y ∈ ys, R x y → S x y) :
    List.Forall₂ S xs ys := by
  induction h with
  | nil => exact .nil
  | @cons x y xs ys hxy _ ih =>
    have hhead := hRS x List.mem_cons_self y List.mem_cons_self hxy
    exact .cons hhead (ih fun x hx y hy =>
      hRS x (List.mem_cons_of_mem _ hx) y (List.mem_cons_of_mem _ hy))

theorem find?_eq_of_only {α : Type*} {p : α → Bool} {xs : List α} {x : α}
    (h : ∀ y, y ∈ xs ∧ p y = true ↔ y = x) : xs.find? p = some x := by
  have hx := (h x).mpr rfl
  obtain ⟨y,hy⟩ := Option.isSome_iff_exists.mp (List.find?_isSome.mpr ⟨x,hx⟩)
  rw [hy,(h y).mp ⟨List.mem_of_find?_eq_some hy,List.find?_some hy⟩]

theorem rowOf_eq (hbase : a.HasOnly (q.resultKey w.id a.engines.baseline) base)
    (hcand : cand.resultKey = q.resultKey w.id a.engines.candidate) :
    rowOf a.engines a.results cand = ⟨cand,some base⟩ := by
  obtain ⟨hworkload,-,hquery,hmode⟩ := Measurement.resultKey_eq_iff.mp hcand
  rw [rowOf,find?_eq_of_only]
  intro b
  rw [← hbase b,Measurement.resultKey_eq_iff,decide_eq_true_iff,hworkload,hquery,hmode]

/-! ### The words of a row -/

namespace Markdown

def modeWord : CacheMode → String
  | .hot => "hot"
  | .warm => "warm"
  | .cold => "cold"

def statusWord : Status → String
  | .ok => "ok"
  | .incomplete => "incomplete"
  | .skipped => "skipped"

/-- A latency in milliseconds. -/
def latencyCell (p50 : Option Binary64) : String := p50.elim "-" (·.fixedPlaces 2)

/-- A size in units of 2 ^ 20 bytes. -/
def sizeCell (size : Option Nat) : String :=
  size.elim "-" fun n => ((Binary64.ofNat n).div (.ofNat 1048576)).fixedPlaces 1 ++ " MB"

/-- The cells of a line of a table. -/
def cellsLine (cells : List String) : String := "| " ++ " | ".intercalate cells ++ " |"

theorem modeWord_eq (mode : CacheMode) : modeWord mode = mode.name := by
  cases mode <;> rfl

theorem statusWord_eq (status : Status) : statusWord status = status.name := by
  cases status <;> rfl

end Markdown

/-- A row says of a query what its two results say. -/
structure PairedRow.Tells (r : PairedRow) (q : Query) (base cand : Measurement) : Prop where
  query : r.candidate.query = q.id
  mode : r.candidate.mode = q.mode
  ok_iff : r.status = "ok" ↔ base.status = .ok ∧ cand.status = .ok
  same : base.status = cand.status → r.status = Markdown.statusWord cand.status
  mixed : base.status ≠ cand.status →
    r.status = Markdown.statusWord base.status ++ "/" ++ Markdown.statusWord cand.status
  p50 : r.baseP50 = base.p50 ∧ r.candP50 = cand.p50
  speedup : ∀ x, r.speedup = some x ↔ ∃ b c, base.p50 = some b ∧ cand.p50 = some c ∧
    Binary64.zero.lt c = true ∧ x = b.div c
  size : r.baseSize = base.indexSize ∧ r.candSize = cand.indexSize
  line : Markdown.rowLine r = Markdown.cellsLine
    [q.id,Markdown.modeWord q.mode,Markdown.latencyCell base.p50,Markdown.latencyCell cand.p50,
      r.speedup.elim "-" fun x => x.fixedPlaces 2 ++ "x",Markdown.sizeCell base.indexSize,
      Markdown.sizeCell cand.indexSize,r.status]

/-- A row tells of the two results that a run has for a query, and there are no others. -/
def PairedRow.Covers (r : PairedRow) (a : Artifact) (w : Workload) (q : Query) : Prop :=
  ∃ base cand, a.HasOnly (q.resultKey w.id a.engines.baseline) base ∧
    a.HasOnly (q.resultKey w.id a.engines.candidate) cand ∧ r.Tells q base cand

/-- A row is that of the query that a piece of advice names, and has the two medians whose quotient
is its speedup. -/
structure PairedRow.Supports (r : PairedRow) (v : WorkloadAdvice) : Prop where
  query : v.query = some r.candidate.query
  mode : v.mode = some r.candidate.mode
  medians : ∃ x y, r.baseP50 = some x ∧ r.candP50 = some y ∧ v.speedup = some (x.div y)

/-- Of these rows just one is that of the query that the advice names, and it supports the advice. -/
def Supported (rows : List PairedRow) (v : WorkloadAdvice) : Prop :=
  ∃ r ∈ rows, r.Supports v ∧ ∀ r' ∈ rows,
    v.query = some r'.candidate.query → v.mode = some r'.candidate.mode → r' = r

theorem PairedRow.status_eq (base cand : Measurement) :
    PairedRow.status ⟨cand,some base⟩ = if base.status = cand.status then cand.status.name
      else base.status.name ++ "/" ++ cand.status.name := by
  simp [status]

theorem PairedRow.speedup_eq_some_iff {x : Binary64} :
    PairedRow.speedup ⟨cand,some base⟩ = some x ↔ ∃ b c, base.p50 = some b ∧ cand.p50 = some c ∧
      Binary64.zero.lt c = true ∧ x = b.div c := by
  unfold speedup
  simp only [baseP50,candP50,Option.bind_some]
  cases base.p50 with
  | none => simp
  | some b =>
    cases cand.p50 with
    | none => simp
    | some c =>
      cases hzero : Binary64.zero.lt c with
      | false => simp [hzero]
      | true =>
        simp only [hzero,if_true,Option.some_inj]
        constructor
        · rintro rfl
          exact ⟨b,c,rfl,rfl,hzero,rfl⟩
        · rintro ⟨_,_,rfl,rfl,-,rfl⟩
          rfl

theorem PairedRow.tells (hcand : cand.resultKey = q.resultKey w.id engine) :
    PairedRow.Tells ⟨cand,some base⟩ q base cand := by
  obtain ⟨-,-,hquery,hmode⟩ := Measurement.resultKey_eq_iff.mp hcand
  refine ⟨hquery,hmode,?_,?_,?_,⟨rfl,rfl⟩,fun x => ?_,⟨rfl,rfl⟩,?_⟩
  · rw [status_eq]
    cases base.status <;> cases cand.status <;> decide
  · intro hsame
    rw [status_eq,if_pos hsame,Markdown.statusWord_eq]
  · intro hmixed
    rw [status_eq,if_neg hmixed,Markdown.statusWord_eq,Markdown.statusWord_eq]
  · exact PairedRow.speedup_eq_some_iff
  · rw [← hquery,← hmode,Markdown.modeWord_eq]
    rfl

theorem mem_pairedRows {engines : EnginePair} {ms : List Measurement} {workload : String} :
    r ∈ pairedRows engines ms workload ↔
      ∃ c ∈ ms, c.workload = workload ∧ c.engine = engines.candidate ∧ rowOf engines ms c = r := by
  simp [pairedRows_eq,and_assoc]

section Rows

variable (h : DistinctNames a.engines suite) (hw : w ∈ suite)
  (hkeys : a.results.map Measurement.resultKey = suite.flatMap (Workload.resultKeys a.engines))

include h hw hkeys

/-- The rows of a workload are in step with its queries. -/
theorem pairedRows_inStep : List.Forall₂ (fun q r => r.Covers a w q) w.queries
    (pairedRows a.engines a.results w.id) := by
  have hbaseline := a.engines.baseline_mem
  have hcandidate := a.engines.candidate_mem
  rw [pairedRows_eq,List.forall₂_map_right_iff]
  refine forall₂_of_mem (h.inStep hw hcandidate hkeys).flip fun q hq c hc hkey => ?_
  obtain ⟨base,hbase⟩ := h.exists_hasOnly hw hbaseline hkeys hq
  have hcand := h.hasOnly hw hcandidate hkeys (List.mem_filter.mp hc).1 hkey
  refine ⟨base,c,hbase,hcand,?_⟩
  rw [rowOf_eq hbase hkey]
  exact PairedRow.tells hkey

/-- The rows of a workload support the advice on it, if there is any. -/
theorem supported_recommend (t : AdviceThresholds)
    (hadvice : (recommend t a.engines a.results w.id).advice.isSome = true) :
    Supported (pairedRows a.engines a.results w.id) (recommend t a.engines a.results w.id) := by
  have hbaseline := a.engines.baseline_mem
  have hcandidate := a.engines.candidate_mem
  obtain ⟨base,cand,x,y,hdecides⟩ := exists_decidesBy hadvice
  have hrests := restsOn_recommend (t := t) hdecides
  obtain ⟨q,hq⟩ := belongsTo_of_decisivePair h hw hkeys hdecides.pair
  have hbase := h.hasOnly hw hbaseline hkeys hdecides.pair.partner.mem hq.base
  have hcand := h.hasOnly hw hcandidate hkeys hdecides.pair.candidate.mem hq.candidate
  have hrow := rowOf_eq hbase hq.candidate
  obtain ⟨hworkload,hengine,hquery,hmode⟩ := Measurement.resultKey_eq_iff.mp hq.candidate
  have hmem := mem_pairedRows.mpr ⟨cand,hcand.mem,hworkload,hengine,hrow⟩
  refine ⟨⟨cand,some base⟩,hmem,⟨hrests.query,hrests.mode,?_⟩,fun r' hr' hquery' hmode' => ?_⟩
  · exact ⟨x,y,hdecides.base,hdecides.candidate,hrests.speedup⟩
  obtain ⟨c,hc,hcworkload,hcengine,rfl⟩ := mem_pairedRows.mp hr'
  rw [hrests.query,Option.some_inj] at hquery'
  rw [hrests.mode,Option.some_inj] at hmode'
  have hsame : c = cand := by
    rw [← hcand c,Measurement.resultKey_eq_iff]
    exact ⟨hc,hcworkload,hcengine,hquery'.symm.trans hquery,hmode'.symm.trans hmode⟩
  rw [hsame,hrow]

end Rows

namespace Binary64

/-- A number with a fraction is never written as a dash. -/
theorem fixedPlaces_ne_dash (x : Binary64) {places : Nat} (h : 0 < places) :
    x.fixedPlaces places ≠ "-" := by
  intro hdash
  have hlength := x.one_lt_length_fixedPlaces h
  rw [hdash] at hlength
  exact absurd hlength (by decide)

end Binary64

namespace Markdown

theorem latencyCell_eq_dash_iff (p50 : Option Binary64) : latencyCell p50 = "-" ↔ p50 = none := by
  cases p50 with
  | none => simp [latencyCell]
  | some x => simpa [latencyCell] using x.fixedPlaces_ne_dash (by decide)

theorem sizeCell_eq_dash_iff (size : Option Nat) : sizeCell size = "-" ↔ size = none := by
  cases size with
  | none => simp [sizeCell]
  | some n =>
    have hunit : " MB".length = 3 := rfl
    have hdash : "-".length = 1 := rfl
    simp only [sizeCell,Option.elim_some,reduceCtorEq,iff_false]
    intro h
    have hlength := congrArg String.length h
    rw [String.length_append,hunit,hdash] at hlength
    omega

/-- One section of the report: what came of a workload, and its table. -/
structure Section where
  outcome : Outcome
  rows : List PairedRow

def Section.lines (engines : EnginePair) (x : Section) : List String :=
  ["## " ++ x.outcome.workload,""] ++
    (if x.outcome.description.isEmpty then [] else [x.outcome.description,""]) ++
    (x.outcome.error.elim [] fun e => [s!"Skipped: {e}",""]) ++
    [cellsLine ["query","mode",engines.baseline ++ " p50 ms",engines.candidate ++ " p50 ms",
        "speedup",engines.baseline ++ " size",engines.candidate ++ " size","status"],
      "|---|---|---:|---:|---:|---:|---:|---|"] ++ x.rows.map rowLine ++ [""]

/-- What stands before the sections. -/
def front (a : Artifact) : List String :=
  [s!"# {capitals a.engines.candidate} vs {capitals a.engines.baseline} Benchmark Results","",
    s!"- Run: `{a.id.hyphenated}`",s!"- Started: {a.startedAt.withOffset}",
    s!"- Tier: {a.environment.scale.name} ({a.environment.scaleName})"] ++
    (if a.budget.exhausted then
      [s!"- **Partial run**: budget of {a.budget.limitSeconds}s exhausted"] else []) ++ [""]

/-- What stands after them. -/
def closing (a : Artifact) : List String :=
  ["## Recommendations",""] ++ a.summary.advice.map fun v =>
    "- **" ++ v.workload ++ "**: " ++ v.advice.elim "no recommendation" (·.label a.engines) ++
      " (" ++ v.reason ++ ")"

def sections (a : Artifact) : List Section :=
  a.outcomes.map fun x => ⟨x,pairedRows a.engines a.results x.workload⟩

theorem lines_eq (a : Artifact) :
    lines a = front a ++ (sections a).flatMap (Section.lines a.engines) ++ closing a := by
  rw [sections,List.flatMap_map,closing,← List.append_assoc]
  rfl

/-- A section has the name of a workload, a row for each of its queries, and in its rows the ground
of the advice on the workload, if there is any. -/
structure Section.Covers (x : Section) (a : Artifact) (w : Workload) : Prop where
  names : x.outcome.names = w.names
  rows : List.Forall₂ (fun q r => r.Covers a w q) w.queries x.rows
  advice : ∀ v ∈ a.summary.advice, v.workload = w.id → v.advice.isSome = true → Supported x.rows v

end Markdown

namespace Runner

open Markdown (front closing Section sections)

variable {σ : Type}

theorem yields_sections (o : Options) (d : Detector) (id : RunId) (env : Environment)
    (suite : List Workload) (hnames : DistinctNames o.trial.engines suite) :
    (run o d id env suite : Session σ Artifact).Yields fun _ a =>
      List.Forall₂ (fun w x => x.Covers a w) suite (sections a) := by
  refine Session.Ensures.yields
    ((yields_run o d id env suite).and (yields_advised o d id env suite)) ?_
  rintro es a ⟨hcovers,hadvised⟩
  obtain ⟨houtcomes,-⟩ := hcovers a rfl
  obtain ⟨hengines,hadvice,hkeys⟩ := hadvised a rfl
  rw [← hengines] at hnames
  rw [sections,List.forall₂_map_right_iff]
  rw [← List.forall₂_eq_eq_eq,List.forall₂_map_left_iff,List.forall₂_map_right_iff] at houtcomes
  refine forall₂_of_mem houtcomes.flip fun w hw x _ hsame => ?_
  have hworkload : x.workload = w.id := congrArg Prod.fst hsame
  rw [hworkload]
  refine ⟨hsame,pairedRows_inStep hnames hw hkeys,fun v hv hvw hsome => ?_⟩
  rw [hadvice] at hv
  obtain ⟨y,-,rfl⟩ := List.mem_map.mp hv
  rw [workload_recommend] at hvw
  rw [hvw] at hsome ⊢
  exact supported_recommend hnames hw hkeys o.thresholds hsome

/-- The report of a run omits nothing: in the order of the suite there is a section for each
workload, and in it, in the order of the queries, a row with what the two results of each query say.
The row of the query that there is advice on has the two medians whose quotient is the speedup. A
latency or a size is a dash just if there is none. -/
theorem markdown_omits_nothing (o : Options) (d : Detector) (id : RunId) (env : Environment)
    (suite : List Workload) (c : Client σ) (s : World σ) {a : Artifact}
    (hrun : (run o d id env suite c s).1 = .ok a) (hnames : DistinctNames o.trial.engines suite) :
    Markdown.render a = String.join ((front a ++ (sections a).flatMap (Section.lines a.engines) ++
      closing a).map (· ++ "\n")) ∧
    List.Forall₂ (fun w x => x.Covers a w) suite (sections a) ∧
    (∀ p50, Markdown.latencyCell p50 = "-" ↔ p50 = none) ∧
    ∀ size, Markdown.sizeCell size = "-" ↔ size = none := by
  obtain ⟨_,_,_,hyields⟩ := yields_sections o d id env suite hnames c s
  refine ⟨?_,hyields a hrun,Markdown.latencyCell_eq_dash_iff,Markdown.sizeCell_eq_dash_iff⟩
  rw [Markdown.render,Markdown.lines_eq]

/-- A timeout of the hot query on the baseline engine. -/
theorem markdown_omits_nothing_hotAndCold :
    ∃ a x, (run {} ⟨none,.standard,"smol"⟩ default (.ofCapacity none) [.hotAndCold]
        (.failingAt [(9,.queryTimeout "SELECT 1;" 5)]) ⟨0,#[]⟩).1 = .ok a ∧
      DistinctNames ⟨"btree","smol"⟩ [.hotAndCold] ∧ sections a = [x] ∧
      x.outcome.workload = "lookup" ∧
      x.rows.map (fun r => (r.candidate.query,r.candidate.mode,r.status)) =
        [("hot",.hot,"incomplete/ok"),("cold",.cold,"ok")] := by
  have hnames : DistinctNames ⟨"btree","smol"⟩ [.hotAndCold] :=
    ⟨by decide,by decide,by simp [Workload.hotAndCold]⟩
  obtain ⟨a,ha,hfacts⟩ : ∃ a, (run {} ⟨none,.standard,"smol"⟩ default (.ofCapacity none)
      [.hotAndCold] (.failingAt [(9,.queryTimeout "SELECT 1;" 5)]) ⟨0,#[]⟩).1 = .ok a ∧
      (a.engines,a.results.map fun m => (m.resultKey,m.status)) =
        (⟨"btree","smol"⟩,[(⟨"lookup","hot","btree",.hot⟩,.incomplete),
          (⟨"lookup","cold","btree",.cold⟩,.ok),(⟨"lookup","hot","smol",.hot⟩,.ok),
          (⟨"lookup","cold","smol",.cold⟩,.ok)]) :=
    ok_of_toOption (by decide +kernel)
  obtain ⟨hengines,hresults⟩ := Prod.mk.inj hfacts
  have hstatus : ∀ {k m}, a.HasOnly k m → (k,m.status) ∈
      a.results.map fun m => (m.resultKey,m.status) := fun {k m} h =>
    List.mem_map.mpr ⟨m,h.mem,by rw [h.resultKey]⟩
  rw [hresults] at hstatus
  obtain ⟨-,hsections,-,-⟩ := markdown_omits_nothing _ _ _ _ _ _ _ ha hnames
  obtain ⟨x,_,hx,hnil,hall⟩ := List.forall₂_cons_left_iff.mp hsections
  obtain rfl := List.forall₂_nil_left_iff.mp hnil
  obtain ⟨hot,_,⟨b,k,hb,hk,hhot⟩,hrest,hrows⟩ := List.forall₂_cons_left_iff.mp hx.rows
  obtain ⟨cold,_,⟨b',k',hb',hk',hcold⟩,hnil,rfl⟩ := List.forall₂_cons_left_iff.mp hrest
  obtain rfl := List.forall₂_nil_left_iff.mp hnil
  refine ⟨a,x,ha,hnames,hall,congrArg Prod.fst hx.names,?_⟩
  rw [hengines] at hb hk hb' hk'
  have hbstatus : b.status = .incomplete := by
    simpa [Query.resultKey,Workload.hotAndCold] using hstatus hb
  have hkstatus : k.status = .ok := by
    simpa [Query.resultKey,Workload.hotAndCold] using hstatus hk
  have hbstatus' : b'.status = .ok := by
    simpa [Query.resultKey,Workload.hotAndCold] using hstatus hb'
  have hkstatus' : k'.status = .ok := by
    simpa [Query.resultKey,Workload.hotAndCold] using hstatus hk'
  have hmixed : hot.status = "incomplete/ok" := by
    rw [hhot.mixed (by simp [hbstatus,hkstatus]),hbstatus,hkstatus]
    rfl
  have hok : cold.status = "ok" := hcold.ok_iff.mpr ⟨hbstatus',hkstatus'⟩
  simp [hrows,hmixed,hok,hhot.query,hhot.mode,hcold.query,hcold.mode]

end Runner

end IndexTrial
