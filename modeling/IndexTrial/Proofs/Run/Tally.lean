import IndexTrial.Benchmark
import IndexTrial.Proofs.Regression.Checking
import IndexTrial.Proofs.Run.Abort
import IndexTrial.Proofs.Run.Completeness

/-!
The summary of a run accounts for every unit. What is due for a verdict is decided by the detector
and counted by the summary, each from the measurements alone; that the counts add up says that both
mean the same measurements.
-/

namespace IndexTrial

/-- Worse than its baseline value, by more than is tolerated. -/
inductive Verdict.Regressed : Verdict → Prop
  | warning (ratio : Binary64) : Regressed (.warning ratio)
  | critical (ratio : Binary64) : Regressed (.critical ratio)

theorem Verdict.regressed_iff {v : Verdict} : v.Regressed ↔ 0 < v.severity := by
  constructor
  · rintro (ratio | ratio) <;> simp [severity]
  · intro h
    cases v with
    | ok => simp [severity] at h
    | warning ratio => exact .warning ratio
    | critical ratio => exact .critical ratio

theorem Verdict.severity_le_two (v : Verdict) : v.severity ≤ 2 := by
  cases v <;> simp [severity]

/-- One of the two metrics regressed. -/
def Comparison.Regressed (c : Comparison) : Prop :=
  ∃ v : Verdict, (c.latency = some v ∨ c.size = some v) ∧ v.Regressed

theorem Verdict.severityOf_pos_iff {v : Option Verdict} :
    0 < severityOf v ↔ ∃ w, v = some w ∧ w.Regressed := by
  cases v <;> simp [severityOf,regressed_iff]

theorem Comparison.regressed_iff {c : Comparison} : c.Regressed ↔ 0 < c.worst.severity := by
  have hmax : 0 < c.worst.severity ↔
      0 < Verdict.severityOf c.latency ∨ 0 < Verdict.severityOf c.size := by
    rw [severity_worst]
    omega
  rw [hmax,Verdict.severityOf_pos_iff,Verdict.severityOf_pos_iff,← exists_or]
  exact exists_congr fun v => or_and_right

/-- A complete measurement of the engine that verdicts are for. -/
def Measurement.isDue (candidate : String) (m : Measurement) : Bool :=
  m.engine == candidate && m.isComplete

/-- Only what is due has a verdict. -/
def JudgedWhenDue (candidate : String) (ms : List Measurement) : Prop :=
  ∀ m ∈ ms, m.comparison.isSome = true → m.isDue candidate = true

namespace RunSummary

theorem countStatus_add (ms : List Measurement) :
    countStatus ms .ok + countStatus ms .incomplete + countStatus ms .skipped = ms.length := by
  induction ms with
  | nil => rfl
  | cons m ms ih =>
    have hone : ∀ s, countStatus (m :: ms) s = countStatus ms s + if m.status == s then 1 else 0 :=
      fun s => List.countP_cons
    rw [hone,hone,hone,List.length_cons,← ih]
    cases m.status <;> simp <;> omega

/-- What is due is counted once: by the severity of its verdict, or as having none. -/
theorem countSeverity_add {candidate : String} {ms : List Measurement}
    (h : JudgedWhenDue candidate ms) :
    countSeverity ms 0 + countSeverity ms 1 + countSeverity ms 2 + countUncompared candidate ms =
      ms.countP (Measurement.isDue candidate) := by
  induction ms with
  | nil => rfl
  | cons m ms ih =>
    have hrest := ih fun n hn => h n (List.mem_cons_of_mem m hn)
    have hdue := h m List.mem_cons_self
    simp only [countSeverity,countUncompared] at hrest ⊢
    simp only [List.countP_cons,← hrest]
    cases hc : m.comparison with
    | none =>
      simp [Measurement.isDue]
      omega
    | some c =>
      have hle := c.worst.severity_le_two
      have hdue := hdue (by simp [hc])
      rcases hs : c.worst.severity with _ | _ | _ | n
      · simp [hs,hdue]; omega
      · simp [hs,hdue]; omega
      · simp [hs,hdue]; omega
      · omega

/-- Without comparisons all that is due is counted as having none. -/
theorem verdicts_of_uncompared (t : AdviceThresholds) (engines : EnginePair) (truncated : Bool)
    (outcomes : List Outcome) {ms : List Measurement} (hnone : ∀ m ∈ ms, m.comparison = none) :
    (ofRun t engines truncated outcomes ms).verdicts =
      ⟨0,0,0,ms.countP (Measurement.isDue engines.candidate)⟩ := by
  have hseverity : ∀ severity, countSeverity ms severity = 0 := fun severity =>
    List.countP_eq_zero.mpr fun m hm => by simp [hnone m hm]
  have hdue : countUncompared engines.candidate ms =
      ms.countP (Measurement.isDue engines.candidate) :=
    List.countP_congr fun m hm => by simp [hnone m hm,Measurement.isDue]
  simp only [ofRun,hseverity,hdue]

/-- A severity of a positive count is the severity of some verdict. -/
theorem countSeverity_pos_iff (ms : List Measurement) (severity : Nat) :
    0 < countSeverity ms severity ↔
      ∃ m ∈ ms, ∃ c, m.comparison = some c ∧ c.worst.severity = severity := by
  simp [countSeverity,List.countP_pos_iff,Option.any_eq_true]

theorem hasRegressions_ofRun (t : AdviceThresholds) (engines : EnginePair) (truncated : Bool)
    (outcomes : List Outcome) (ms : List Measurement) :
    (ofRun t engines truncated outcomes ms).hasRegressions = true ↔
      ∃ m ∈ ms, ∃ c, m.comparison = some c ∧ c.Regressed := by
  have hsplit : ∀ c : Comparison, c.Regressed ↔ c.worst.severity = 1 ∨ c.worst.severity = 2 := by
    intro c
    have hle := c.worst.severity_le_two
    rw [Comparison.regressed_iff]
    omega
  have hcounts : (ofRun t engines truncated outcomes ms).hasRegressions = true ↔
      0 < countSeverity ms 1 ∨ 0 < countSeverity ms 2 := by
    rw [hasRegressions,Bool.or_eq_true,decide_eq_true_iff,decide_eq_true_iff]
    rfl
  rw [hcounts,countSeverity_pos_iff,countSeverity_pos_iff]
  constructor
  · rintro (⟨m,hm,c,hc,hs⟩ | ⟨m,hm,c,hc,hs⟩)
    · exact ⟨m,hm,c,hc,(hsplit c).mpr (.inl hs)⟩
    · exact ⟨m,hm,c,hc,(hsplit c).mpr (.inr hs)⟩
  · rintro ⟨m,hm,c,hc,hregressed⟩
    exact ((hsplit c).mp hregressed).imp (fun hs => ⟨m,hm,c,hc,hs⟩) fun hs => ⟨m,hm,c,hc,hs⟩

theorem completed_add_skipped (t : AdviceThresholds) (engines : EnginePair) (truncated : Bool)
    (outcomes : List Outcome) (ms : List Measurement) :
    (ofRun t engines truncated outcomes ms).completed +
      (ofRun t engines truncated outcomes ms).skipped = outcomes.length := by
  have hskipped : (fun x : Outcome => x.status == .skipped) =
      fun x => decide ¬ (x.status == .completed) = true := by
    funext x
    cases hx : x.status <;> simp
  rw [List.length_eq_countP_add_countP (fun x : Outcome => x.status == .completed)]
  simp only [ofRun,hskipped]

end RunSummary

namespace Detector

variable {d : Detector}

/-- The detector judges nothing that the summary does not count as due. -/
theorem isDue_of_check {m : Measurement} (h : (d.check m).isSome = true) :
    m.isDue d.engine = true := by
  obtain ⟨c,hc⟩ := Option.isSome_iff_exists.mp h
  obtain ⟨hengine,hstatus,-⟩ := check_eq_some_iff.mp hc
  simp [Measurement.isDue,Measurement.isComplete,hengine,hstatus]

theorem judged_attach {ms : List Measurement} (hnone : ∀ m ∈ ms, m.comparison = none) :
    JudgedWhenDue d.engine (d.attach ms) := by
  intro m hm hsome
  rw [comparison_of_mem_attach hnone hm] at hsome
  exact isDue_of_check hsome

end Detector

/-- The summary of an artifact accounts for every unit of its suite. -/
structure Artifact.Tallies (a : Artifact) (suite : List Workload) : Prop where
  results : a.summary.results.ok + a.summary.results.incomplete + a.summary.results.skipped =
    a.results.length
  verdicts : a.summary.verdicts.ok + a.summary.verdicts.warning + a.summary.verdicts.critical +
    a.summary.verdicts.noBaseline = a.results.countP (Measurement.isDue a.engines.candidate)
  uncompared : a.baselineLoaded = false → a.summary.verdicts =
    ⟨0,0,0,a.results.countP (Measurement.isDue a.engines.candidate)⟩
  workloads : a.summary.completed + a.summary.skipped = suite.length
  outcomes : a.outcomes.map Outcome.workload = suite.map Workload.id
  advice : a.summary.advice.map WorkloadAdvice.workload =
    (a.outcomes.filter fun x => x.status == .completed).map Outcome.workload
  regressions : a.summary.hasRegressions = true ↔
    ∃ m ∈ a.results, ∃ c, m.comparison = some c ∧ c.Regressed

namespace Runner

variable {σ : Type}

/-- Before the detector sees them, no results of a run are compared. -/
theorem yields_uncompared (o : TrialOptions) (deadline : Nat) (exhausted : Bool)
    (suite : List Workload) :
    (runWorkloads o deadline exhausted suite : Session σ (Bool × List Executor.Report)).Yields
      fun _ r => ∀ m ∈ r.2.flatMap (·.results), m.comparison = none := by
  refine yields_results o deadline exhausted suite (fun _ _ _ _ _ _ => rfl) ?_
  rintro w engine u ⟨m,index,hmeasured,hresult⟩
  obtain ⟨_,_,_,rfl⟩ := hmeasured.conclude
  rw [hresult]
  rfl

/-- The summary of a run accounts for every unit, if the detector is for the candidate engine. -/
theorem yields_tallies {o : Options} {d : Detector} (hd : d.engine = o.trial.engines.candidate)
    (id : RunId) (env : Environment) (suite : List Workload) :
    (run o d id env suite : Session σ Artifact).Yields fun _ a =>
      a.environment = env ∧ a.engines = o.trial.engines ∧ a.baselineLoaded = d.hasBaseline ∧
        a.Tallies suite := by
  refine yields_of_assembled (P := fun reports => Covers o.trial.engines reports suite ∧
    ∀ m ∈ reports.flatMap (·.results), m.comparison = none) (fun deadline => ?_) ?_
  · exact Session.Ensures.yields ((yields_runWorkloads _ _ _ _).and (yields_uncompared _ _ _ _))
      fun _ r h => ⟨h.1 r rfl,h.2 r rfl⟩
  rintro exhausted reports a ⟨hcovers,huncompared⟩ hassembled
  refine ⟨hassembled.environment,hassembled.engines,hassembled.baselineLoaded,?_⟩
  have hjudged := Detector.judged_attach (d := d) huncompared
  rw [hd,← hassembled.results,← hassembled.engines] at hjudged
  have houtcomes : a.outcomes.map Outcome.workload = suite.map Workload.id := by
    simpa [hassembled.outcomes,Function.comp_def,Outcome.names,Workload.names] using
      congrArg (List.map Prod.fst) hcovers.names
  have hsummary := hassembled.summary
  rw [← hassembled.engines] at hsummary
  refine ⟨?_,?_,fun hloaded => ?_,?_,houtcomes,?_,?_⟩
  · rw [hsummary]
    exact RunSummary.countStatus_add _
  · rw [hsummary]
    exact RunSummary.countSeverity_add hjudged
  · have hbaseline : d.baseline = none := by
      simpa [Detector.hasBaseline] using hassembled.baselineLoaded.symm.trans hloaded
    rw [hsummary]
    refine RunSummary.verdicts_of_uncompared _ _ _ _ ?_
    rw [hassembled.results,Detector.attach_of_baseline hbaseline]
    exact huncompared
  · rw [hsummary,RunSummary.completed_add_skipped]
    simpa using congrArg List.length houtcomes
  · rw [hsummary]
    simp [RunSummary.ofRun,Function.comp_def]
  · rw [hsummary]
    exact RunSummary.hasRegressions_ofRun ..

end Runner

namespace Benchmark

variable {σ : Type}

/-- Whatever holds of the run of every suite holds of a benchmark that ends, for the suite it built. -/
theorem exists_suite_of_run {s : Settings} {mode : SuiteMode} {id : RunId} {files : FileTree}
    {P : Environment → List Workload → Artifact → Prop}
    (hrun : ∀ env suite, (Runner.run (s.runner mode)
      (s.detector (Baseline.loadUsable files s.paths.baseline)) id env suite :
      Session σ Artifact).Yields fun _ a => P env suite a) {c : Client σ} {x : World σ} {a : Artifact}
    (h : (run s mode id files c x).1 = .ok (.ok a)) :
    ∃ env suite, Suite.workloads mode env s.run.seed = .ok suite ∧ P env suite a := by
  have hyields : (run s mode id files : Session σ (Except WordFault Artifact)).Yields
      fun _ r => ∀ a, r = .ok a →
        ∃ env suite, Suite.workloads mode env s.run.seed = .ok suite ∧ P env suite a := by
    refine unfailing_probe.ensures_bind fun _ env _ => ?_
    cases hsuite : Suite.workloads mode env s.run.seed with
    | error e => exact Session.Yields.pure (by simp)
    | ok suite =>
      refine Session.Yields.bind (hrun env suite) fun _ a ha => ?_
      refine Session.Yields.pure ?_
      rintro _ ⟨⟩
      exact ⟨env,suite,hsuite,ha⟩
  obtain ⟨_,_,_,hyields⟩ := hyields c x
  exact hyields _ h a rfl

/-- The summary of every benchmark that ends accounts for the workloads of its suite and for all
that was measured; with nothing usable in the baseline's file, nothing is compared. -/
theorem run_tallies (s : Settings) (mode : SuiteMode) (id : RunId) (files : FileTree)
    (c : Client σ) (x : World σ) {a : Artifact}
    (h : (run s mode id files c x).1 = .ok (.ok a)) :
    ∃ suite, Suite.workloads mode a.environment s.run.seed = .ok suite ∧ a.Tallies suite ∧
      a.engines = s.engines ∧
      a.baselineLoaded = (Baseline.loadUsable files s.paths.baseline).isSome := by
  obtain ⟨env,suite,hsuite,henv,hengines,hloaded,htallies⟩ :=
    exists_suite_of_run (fun env suite => Runner.yields_tallies rfl id env suite) h
  exact ⟨suite,by rw [henv,hsuite],htallies,hengines,hloaded⟩

/-- An artifact that was evaluated. -/
theorem exists_artifact {β : Type} {r : Except Fault (Except WordFault Artifact)} {f : Artifact → β}
    {b : β} (h : (r.toOption.bind Except.toOption).map f = some b) :
    ∃ a, r = .ok (.ok a) ∧ f a = b := by
  rcases r with e | e | a
  · cases h
  · cases h
  · exact ⟨a,rfl,Option.some.inj h⟩

/-- A client whose statements take three milliseconds, while its clock shows a second for each
call. -/
def steady : Client Nat where
  answer call n :=
    match call with
    | .execute _ => (.ok ⟨.ofNat 3,[]⟩,n + 1)
    | .evictRelation _ => (.ok (.evicted 0),n + 1)
    | .evictFiles _ => (.ok (.evicted 0),n + 1)
    | .readCapacity => (.ok 0,n + 1)
  clock n := (n * 10 ^ 9,n)

/-- The cold equality query of a quick run's first workload took a millisecond. -/
def coldMetric : Baseline :=
  .ofEntries "smol"
    [(⟨"timeseries_100k_50m_ultra_low_card","hot_metric",.cold⟩,⟨.one,0⟩)]

theorem load_coldMetric : Baseline.loadUsable
    ⟨[(["b.json"],.file (coldMetric.document ⟨1,0⟩))]⟩ "b.json" =
      some { coldMetric with createdAt := some ⟨1,0⟩ } := by
  have hstorable : coldMetric.Storable := ⟨List.pairwise_singleton _ _,by decide,by decide⟩
  have hvalid : (Moment.mk 1 0).Valid := ⟨by decide,by decide,by decide⟩
  have hread := hstorable.ofDocument?_document hvalid
  have hentry : (FileTree.mk [(["b.json"],.file (coldMetric.document ⟨1,0⟩))]).entryAt?
      (.read "b.json") = some (.file (coldMetric.document ⟨1,0⟩)) := rfl
  rw [Baseline.loadUsable_of_file hentry,hread]

/-- Ten seconds are enough for one workload. Its cold equality query regressed, its three other
candidate measurements have no baseline, and the rest of the suite is left out. -/
theorem run_tallies_steady :
    ∃ a suite,
      (run { paths := { baseline := "b.json" }, run := { budgetSeconds := some 10 } } .quick default
        ⟨[(["b.json"],.file (coldMetric.document ⟨1,0⟩))]⟩ steady ⟨0,#[]⟩).1 = .ok (.ok a) ∧
      Suite.workloads .quick a.environment 42 = .ok suite ∧ a.Tallies suite ∧
      a.baselineLoaded = true ∧ a.summary.results = ⟨8,0,56⟩ ∧
      a.summary.verdicts = ⟨0,0,1,3⟩ ∧ a.summary.hasRegressions = true := by
  obtain ⟨a,hrun,hfacts⟩ : ∃ a,
      (run { paths := { baseline := "b.json" }, run := { budgetSeconds := some 10 } } .quick default
        ⟨[(["b.json"],.file (coldMetric.document ⟨1,0⟩))]⟩ steady ⟨0,#[]⟩).1 = .ok (.ok a) ∧
      (a.summary.results,a.summary.verdicts) = (⟨8,0,56⟩,⟨0,0,1,3⟩) := by
    simp only [run,load_coldMetric]
    exact exists_artifact (by decide +kernel)
  obtain ⟨hresults,hverdicts⟩ := Prod.mk.inj hfacts
  obtain ⟨suite,hsuite,htallies,_,hloaded⟩ := run_tallies _ _ _ _ _ _ hrun
  refine ⟨a,suite,hrun,hsuite,htallies,?_,hresults,hverdicts,?_⟩
  · rw [hloaded]
    simp only [load_coldMetric,Option.isSome_some]
  · simp [RunSummary.hasRegressions,hverdicts]

end Benchmark

end IndexTrial
