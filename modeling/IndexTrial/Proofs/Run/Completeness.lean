import IndexTrial.Proofs.Trial.Containment
import IndexTrial.Trial.Runner
import Mathlib.Data.List.Forall2

/-!
A run reports on its whole suite. Whatever fails and wherever the budget ends, the results have the
keys that the workloads owe, in order.
-/

namespace IndexTrial

/-- What tells the workloads of a report apart. -/
def Workload.names (w : Workload) : String × String × String := (w.id,w.description,w.table)

def Outcome.names (x : Outcome) : String × String × String := (x.workload,x.description,x.table)

/-- The reports are on these workloads, in order, with all keys that they owe. -/
structure Covers (engines : EnginePair) (reports : List Executor.Report)
    (suite : List Workload) : Prop where
  names : reports.map (fun r => r.outcome.names) = suite.map Workload.names
  resultKeys : (reports.flatMap (·.results)).map Measurement.resultKey =
    suite.flatMap (Workload.resultKeys engines)

namespace Covers

variable {engines : EnginePair}

theorem nil : Covers engines [] [] := ⟨rfl,rfl⟩

theorem cons {r : Executor.Report} {rs : List Executor.Report} {w : Workload} {ws : List Workload}
    (h₁ : Covers engines [r] [w]) (h₂ : Covers engines rs ws) : Covers engines (r :: rs) (w :: ws) := by
  constructor
  · rw [List.map_cons,List.map_cons,h₂.names]
    simpa using h₁.names
  · rw [List.flatMap_cons,List.flatMap_cons,List.map_append,h₂.resultKeys]
    simpa using h₁.resultKeys

theorem of_forall₂ {reports : List Executor.Report} {suite : List Workload}
    (h : List.Forall₂ (fun w r => Covers engines [r] [w]) suite reports) :
    Covers engines reports suite := by
  induction h with
  | nil => exact .nil
  | cons hone _ ih => exact hone.cons ih

end Covers

/-- Every query of an engine has a share, and the share's result its key. -/
theorem Account.Fits.resultKeys {o : TrialOptions} {w : Workload} {a : Account} (h : a.Fits o w) :
    a.results.map Measurement.resultKey = w.resultKeys o.engines := by
  have hqueries : ∀ s ∈ a.engines, s.queries.map QueryShare.query = w.queries := by
    intro s hs
    cases hloaded : a.loaded with
    | error f => exact ((h.missing f hloaded).2 s hs).queries
    | ok d => exact ((h.present d hloaded).2 s hs).queries
  have hkeys : ∀ s ∈ a.engines,
      s.results.map Measurement.resultKey = w.queries.map (Query.resultKey w.id s.engine) := by
    intro s hs
    rw [← hqueries s hs,EngineShare.results,List.map_map,List.map_map]
    exact List.map_congr_left fun u hu => (h.contained hs hu).resultKey
  rw [Account.results,Workload.resultKeys,← h.engines,List.map_flatMap,List.flatMap_map,
    List.flatMap_def,List.map_congr_left hkeys,← List.flatMap_def]

theorem Account.Fits.covers {o : TrialOptions} {w : Workload} {a : Account} (h : a.Fits o w)
    {report : Executor.Report} (htells : a.Tells w report) : Covers o.engines [report] [w] := by
  obtain ⟨⟨elapsed,houtcome⟩,hresults⟩ := htells
  refine ⟨?_,by simp [hresults,h.resultKeys]⟩
  rw [List.map_singleton,houtcome]
  cases a.loaded <;> rfl

theorem covers_skippedReport (o : TrialOptions) (w : Workload) (reason : String) :
    Covers o.engines [Executor.skippedReport o w reason] [w] := by
  refine ⟨rfl,?_⟩
  simp only [Executor.skippedReport,Executor.unmeasuredBoth,Executor.unmeasured,
    Workload.resultKeys,List.flatMap_singleton,List.map_flatMap,List.map_map]
  rfl

theorem resultKey_attach (d : Detector) (ms : List Measurement) :
    (d.attach ms).map Measurement.resultKey = ms.map Measurement.resultKey := by
  unfold Detector.attach
  split
  · simp [Function.comp_def,Measurement.resultKey]
  · rfl

namespace Runner

variable {σ : Type}

theorem yields_checkBudget (deadline : Nat) (exhausted : Bool) :
    (checkBudget deadline exhausted : Session σ Bool).Yields fun _ _ => True := by
  unfold checkBudget
  split
  · exact Session.Yields.pure trivial
  · exact Session.Yields.bind Session.yields_readClock fun _ _ _ => Session.Yields.pure trivial

/-- What every execution of a workload yields, and what is recorded when it is left out, holds of
the reports of a run one by one. -/
theorem yields_reports {P : Workload → Executor.Report → Prop} (o : TrialOptions) (deadline : Nat)
    (exhausted : Bool) (suite : List Workload)
    (hexecute : ∀ w, (Executor.execute o w : Session σ Executor.Report).Yields fun _ r => P w r)
    (hskip : ∀ w, P w (Executor.skippedReport o w budgetExhausted)) :
    (runWorkloads o deadline exhausted suite : Session σ (Bool × List Executor.Report)).Yields
      fun _ r => List.Forall₂ P suite r.2 := by
  induction suite generalizing exhausted with
  | nil => exact Session.Yields.pure .nil
  | cons w ws ih =>
    refine Session.Yields.bind (yields_checkBudget deadline exhausted) fun _ exhausted _ => ?_
    have hrest : ∀ report, P w report →
        (runWorkloads o deadline exhausted ws >>= fun r =>
          pure (r.1,report :: r.2) : Session σ (Bool × List Executor.Report)).Yields
          fun _ r => List.Forall₂ P (w :: ws) r.2 := fun report hreport =>
      Session.Yields.bind (ih exhausted) fun _ _ h => Session.Yields.pure (.cons hreport h)
    cases exhausted with
    | true => exact Session.Yields.pure_bind (hrest _ (hskip w))
    | false => exact Session.Yields.bind (hexecute w) fun _ report => hrest report

/-- What holds of every query that was run, and of one that was not, holds of all results of a run. -/
theorem yields_results {P : Measurement → Prop} (o : TrialOptions) (deadline : Nat)
    (exhausted : Bool) (suite : List Workload)
    (hunmeasured : ∀ workload query engine mode repeats reason,
      P (.unmeasured workload query engine mode repeats reason))
    (hrun : ∀ {w : Workload} {engine : String} {u : QueryShare}, u.Run o w engine → P u.result) :
    (runWorkloads o deadline exhausted suite : Session σ (Bool × List Executor.Report)).Yields
      fun _ r => ∀ m ∈ r.2.flatMap (·.results), P m := by
  have hexecute : ∀ w, (Executor.execute o w : Session σ Executor.Report).Yields
      fun _ r => ∀ m ∈ r.results, P m := fun w =>
    Session.Ensures.yields (Executor.yields_execute o w) fun es report h => by
      obtain ⟨a,_,hfits,htells⟩ := h report rfl
      rw [htells.results]
      exact hfits.forall_results hunmeasured hrun
  have hskip : ∀ w, ∀ m ∈ (Executor.skippedReport o w budgetExhausted).results, P m := by
    intro w m hm
    obtain ⟨engine,_,hm⟩ := List.mem_flatMap.mp hm
    obtain ⟨q,_,rfl⟩ := List.mem_map.mp hm
    exact hunmeasured ..
  refine Session.Ensures.yields (yields_reports o deadline exhausted suite hexecute hskip) ?_
  rintro _ ⟨cut,reports⟩ h
  have hreports : List.Forall₂ (fun _ r => ∀ m ∈ r.results, P m) suite reports := h _ rfl
  clear h
  induction hreports with
  | nil => simp
  | cons hone _ ih =>
    intro m hm
    rcases List.mem_append.mp hm with hm | hm
    · exact hone m hm
    · exact ih m hm

theorem yields_runWorkloads (o : TrialOptions) (deadline : Nat) (exhausted : Bool)
    (suite : List Workload) :
    (runWorkloads o deadline exhausted suite : Session σ (Bool × List Executor.Report)).Yields
      fun _ r => Covers o.engines r.2 suite := by
  have hexecute : ∀ w, (Executor.execute o w : Session σ Executor.Report).Yields
      fun _ r => Covers o.engines [r] [w] := fun w =>
    Session.Ensures.yields (Executor.yields_execute o w) fun es report h => by
      obtain ⟨a,_,hfits,htells⟩ := h report rfl
      exact hfits.covers htells
  refine Session.Ensures.yields (yields_reports o deadline exhausted suite hexecute
    fun w => covers_skippedReport o w budgetExhausted) fun _ r h => ?_
  exact Covers.of_forall₂ (h r rfl)

/-- What of an artifact is made from the reports of its workloads. -/
structure Assembled (o : Options) (d : Detector) (env : Environment) (exhausted : Bool)
    (reports : List Executor.Report) (a : Artifact) : Prop where
  environment : a.environment = env
  engines : a.engines = o.trial.engines
  baselineLoaded : a.baselineLoaded = d.hasBaseline
  outcomes : a.outcomes = reports.map (·.outcome)
  results : a.results = d.attach (reports.flatMap (·.results))
  summary : a.summary = .ofRun o.thresholds o.trial.engines exhausted a.outcomes a.results

/-- What holds of the reports of every run says what holds of its artifact. -/
theorem yields_of_assembled {o : Options} {d : Detector} {id : RunId} {env : Environment}
    {suite : List Workload} {P : List Executor.Report → Prop} {Q : Artifact → Prop}
    (hreports : ∀ deadline, (runWorkloads o.trial deadline false suite :
      Session σ (Bool × List Executor.Report)).Yields fun _ r => P r.2)
    (h : ∀ exhausted reports a, P reports → Assembled o d env exhausted reports a → Q a) :
    (run o d id env suite : Session σ Artifact).Yields fun _ a => Q a := by
  have hnow : (Session.now : Session σ Moment).Yields fun _ _ => True :=
    Session.Ensures.now fun _ _ _ => trivial
  refine Session.Yields.bind hnow fun _ startedAt _ => ?_
  refine Session.Yields.bind Session.yields_readClock fun _ start _ => ?_
  refine Session.Yields.bind (hreports _) ?_
  rintro _ ⟨exhausted,reports⟩ hholds
  refine Session.Yields.bind Session.yields_readClock fun _ stop _ => ?_
  refine Session.Yields.bind hnow fun _ finishedAt _ => Session.Yields.pure ?_
  exact h exhausted reports _ hholds ⟨rfl,rfl,rfl,rfl,rfl,rfl⟩

theorem yields_run (o : Options) (d : Detector) (id : RunId) (env : Environment)
    (suite : List Workload) :
    (run o d id env suite : Session σ Artifact).Yields fun _ a =>
      a.outcomes.map Outcome.names = suite.map Workload.names ∧
        a.results.map Measurement.resultKey = suite.flatMap (Workload.resultKeys o.trial.engines) := by
  refine yields_of_assembled (P := (Covers o.trial.engines · suite))
    (fun deadline => yields_runWorkloads o.trial deadline false suite) ?_
  intro exhausted reports a hcovers hassembled
  constructor
  · simpa [hassembled.outcomes,Function.comp_def] using hcovers.names
  · rw [hassembled.results,resultKey_attach]
    exact hcovers.resultKeys

/-- The outcomes of a run are those of its suite, and its results have the keys that the suite owes:
none missing, doubled or out of order. -/
theorem run_covers_suite (o : Options) (d : Detector) (id : RunId) (env : Environment)
    (suite : List Workload) (c : Client σ) (s : World σ) {a : Artifact}
    (h : (run o d id env suite c s).1 = .ok a) :
    a.outcomes.map Outcome.names = suite.map Workload.names ∧
      a.results.map Measurement.resultKey =
        suite.flatMap (Workload.resultKeys o.trial.engines) := by
  obtain ⟨_,_,_,hyields⟩ := yields_run o d id env suite c s
  exact hyields a h

/-- A timeout, an index that cannot be built, and a budget that ends before the second workload. -/
theorem run_covers_suite_hotAndCold :
    ∃ a, (run { budgetNanos := some 10 } ⟨none,.standard,"smol"⟩ default (.ofCapacity none)
        [.hotAndCold,.hotAndCold]
        (.failingAt [(9,.queryTimeout "SELECT 1;" 5),(17,.queryFailed "no such method")])
        ⟨0,#[]⟩).1 = .ok a ∧
      a.outcomes.map Outcome.status = [.completed,.skipped] ∧
      a.results.map Measurement.status =
        [.incomplete,.ok,.skipped,.skipped,.skipped,.skipped,.skipped,.skipped] ∧
      a.outcomes.map Outcome.names = [("lookup","","t"),("lookup","","t")] ∧
      a.results.map Measurement.resultKey =
        [⟨"lookup","hot","btree",.hot⟩,⟨"lookup","cold","btree",.cold⟩,
          ⟨"lookup","hot","smol",.hot⟩,⟨"lookup","cold","smol",.cold⟩,
          ⟨"lookup","hot","btree",.hot⟩,⟨"lookup","cold","btree",.cold⟩,
          ⟨"lookup","hot","smol",.hot⟩,⟨"lookup","cold","smol",.cold⟩] := by
  obtain ⟨a,hrun,hstatus⟩ : ∃ a,
      (run { budgetNanos := some 10 } ⟨none,.standard,"smol"⟩ default (.ofCapacity none)
        [.hotAndCold,.hotAndCold]
        (.failingAt [(9,.queryTimeout "SELECT 1;" 5),(17,.queryFailed "no such method")])
        ⟨0,#[]⟩).1 = .ok a ∧
      (a.outcomes.map Outcome.status,a.results.map Measurement.status) =
        ([.completed,.skipped],
          [.incomplete,.ok,.skipped,.skipped,.skipped,.skipped,.skipped,.skipped]) :=
    ok_of_toOption (by decide +kernel)
  obtain ⟨houtcomes,hresults⟩ := Prod.mk.inj hstatus
  obtain ⟨hnames,hkeys⟩ := run_covers_suite _ _ _ _ _ _ _ hrun
  exact ⟨a,hrun,houtcomes,hresults,hnames,hkeys⟩

end Runner

end IndexTrial
