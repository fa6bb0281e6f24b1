import IndexTrial.Proofs.Measure.Recording
import IndexTrial.Proofs.Regression.Checking
import IndexTrial.Proofs.Run.Completeness

/-!
Percentiles of full sequences only. What a recorder gives tells of its steps, and has a summary just
if it is complete. A plan that is cut has fewer successes than it has measured executions, so that in
every result of a run the status, the samples and the summary are in step.
-/

namespace IndexTrial

/-- How many calls of a plan are measured. -/
def measuredCount (ps : List PlannedCall) : Nat := ps.countP fun p => p.role = .measured

theorem measuredCount_append (ps qs : List PlannedCall) :
    measuredCount (ps ++ qs) = measuredCount ps + measuredCount qs :=
  List.countP_append

theorem duration?_of_fault {e : Exchange} {f : Fault} (h : e.fault? = some f) : e.duration? = none := by
  obtain ⟨call,reply⟩ := e
  cases reply with
  | ok x => cases h
  | error g => cases call <;> rfl

/-- A plan whose last call is measured falls short when it is cut. -/
theorem Carried.length_measuredDurations_lt {ps : List PlannedCall} {p : PlannedCall}
    {es : List Exchange} {f : Fault} (h : Carried (ps ++ [p]) es (some f)) (hp : p.role = .measured) :
    (measuredDurations (ps ++ [p]) es).length < measuredCount (ps ++ [p]) := by
  have hlast : measuredCount [p] = 1 := by simp [measuredCount,hp]
  induction ps generalizing es with
  | nil =>
    cases h with
    | next _ _ hrest => cases hrest
    | cut _ hends =>
      have hnone := duration?_of_fault (Option.filter_eq_some_iff.mp hends).1
      simp [measuredDurations,hnone,hlast]
  | cons first ps ih =>
    have hcount : measuredCount (first :: (ps ++ [p])) =
        measuredCount [first] + measuredCount (ps ++ [p]) := measuredCount_append [first] _
    rw [List.cons_append,hcount]
    cases h with
    | @next _ _ e _ _ _ _ hrest =>
      have hrest := ih hrest
      have hone : (if first.role = .measured then e.duration?.toList else []).length ≤
          measuredCount [first] := by
        by_cases hfirst : first.role = .measured
        · cases he : e.duration? <;> simp [measuredCount,hfirst]
        · simp [hfirst]
      simp only [measuredDurations,List.length_append]
      omega
    | @cut _ _ e _ _ hends =>
      have hnone := duration?_of_fault (Option.filter_eq_some_iff.mp hends).1
      rw [measuredCount_append,hlast]
      simp [measuredDurations,hnone]

theorem measuredCount_samplingPlan (q : Query) : measuredCount (samplingPlan q) = q.sampleCount := by
  rw [samplingPlan_eq,measuredCount_append]
  split <;> simp [measuredCount,PlannedCall.required,PlannedCall.measured,List.countP_replicate]

theorem measuredCount_planOf (o : TrialOptions) (w : Workload) (engine : String) (q : Query)
    (evicted : String → Bool) : measuredCount (planOf o w engine q evicted) = q.sampleCount := by
  have hprep : measuredCount
      (preparationPlan o.evictFiles evicted (indexName w.table engine) w.table q) = 0 := by
    rw [measuredCount,List.countP_eq_zero]
    simpa using role_preparationPlan o.evictFiles evicted (indexName w.table engine) w.table q
  rw [planOf,queryPlan,measuredCount_append,hprep,measuredCount_samplingPlan,Nat.zero_add]

/-- The last call of a query's plan is a measured execution. -/
theorem planOf_eq_append (o : TrialOptions) (w : Workload) (engine : String) (q : Query)
    (evicted : String → Bool) :
    ∃ ps, planOf o w engine q evicted = ps ++ [.measured q.sql] := by
  obtain ⟨n,hn⟩ := Nat.exists_eq_succ_of_ne_zero q.sampleCount_pos.ne'
  rw [planOf,queryPlan,samplingPlan_eq,hn,Nat.succ_eq_add_one,List.replicate_succ',
    ← List.append_assoc,← List.append_assoc]
  exact ⟨_,rfl⟩

/-- Status, samples, summary and error of a measurement are in step. -/
structure Measurement.InStep (m : Measurement) : Prop where
  summary_isSome : m.summary.isSome = true ↔ m.status = .ok
  summary : ∀ s, m.summary = some s →
    LatencySummary.ofDurations (m.samples.map Sample.duration) = some s
  ok : m.status = .ok → m.samples.length = m.repeats
  incomplete : m.status = .incomplete → m.samples.length < m.repeats
  skipped : m.status = .skipped → m.samples = []
  error : m.error = none ↔ m.status = .ok

namespace Measurement

theorem inStep_unmeasured (workload query engine : String) (mode : CacheMode) (repeats : Nat)
    (reason : String) : (unmeasured workload query engine mode repeats reason).InStep := by
  constructor <;> simp [unmeasured]

/-- Neither the index nor the comparison has a part in it. -/
theorem InStep.congr {m : Measurement} (h : m.InStep) (index : Option IndexFigures)
    (comparison : Option Comparison) : { m with index, comparison }.InStep :=
  ⟨h.summary_isSome,h.summary,h.ok,h.incomplete,h.skipped,h.error⟩

end Measurement

namespace Recorder

variable {r : Recorder}

theorem inStep_conclude_ok (hpos : 0 < r.samples.length) (h : r.samples.length = r.expected) :
    (r.conclude .ok none).InStep := by
  obtain ⟨s,hs⟩ := exists_summary hpos
  refine ⟨by simp [conclude,hs],fun s hs => hs,fun _ => h,?_,?_,by simp [conclude]⟩
  · simp [conclude]
  · simp [conclude]

theorem inStep_conclude_incomplete (h : r.samples.length < r.expected) (text : String) :
    (r.conclude .incomplete (some text)).InStep := by
  refine ⟨by simp [conclude],by simp [conclude],by simp [conclude],fun _ => h,?_,by simp [conclude]⟩
  simp [conclude]

end Recorder

theorem Measured.inStep {o : TrialOptions} {w : Workload} {engine : String} {q : Query}
    {evicted : String → Bool} {es : List Exchange} {ended : Option Fault} {m : Measurement}
    (h : Measured o w engine q evicted es ended (.ok m)) : m.InStep := by
  obtain ⟨samples,notes,hdurations,hlength,hresult⟩ := h.recorded
  rcases Recorder.close_eq_ok hresult.symm with ⟨rfl,rfl⟩ | ⟨f,rfl,-,rfl⟩
  · have hfull := hlength rfl
    rw [Recorder.finish_full hfull.ge]
    exact Recorder.inStep_conclude_ok (hfull ▸ q.sampleCount_pos) hfull
  · obtain ⟨ps,hps⟩ := planOf_eq_append o w engine q evicted
    have hcarried := h.carried
    rw [hps] at hcarried
    have hshort : samples.length < q.sampleCount := by
      have hlt := hcarried.length_measuredDurations_lt rfl
      rwa [← hps,measuredCount_planOf,← hdurations,List.length_map] at hlt
    exact Recorder.inStep_conclude_incomplete hshort f.message

namespace Runner

variable {σ : Type}

theorem yields_inStep (o : Options) (d : Detector) (id : RunId) (env : Environment)
    (suite : List Workload) :
    (run o d id env suite : Session σ Artifact).Yields fun _ a => ∀ m ∈ a.results, m.InStep := by
  refine yields_of_assembled (P := fun reports => ∀ m ∈ reports.flatMap (·.results), m.InStep)
    (fun deadline => ?_) ?_
  · refine yields_results _ _ _ _ Measurement.inStep_unmeasured ?_
    rintro w engine u ⟨m,index,hmeasured,hresult⟩
    rw [hresult]
    exact hmeasured.inStep.congr (some index) m.comparison
  · intro exhausted reports a hinStep hassembled m hm
    rw [hassembled.results] at hm
    obtain ⟨n,hn,comparison,rfl⟩ := Detector.exists_of_mem_attach hm
    exact (hinStep n hn).congr n.index comparison

end Runner

/-- Only full sequences have percentiles: whatever a recorder goes through, it shows its steps, and
has a summary just if it got as many samples as it expects and is finished; and so in every artifact
of a run the samples, the summary and the status of a result say the same. -/
theorem Recorder.summarizes_full_only :
    (∀ (workload query engine : String) (mode : CacheMode) (expected : Nat) (steps : List Step),
      (Shows workload query engine mode expected steps
          ((start workload query engine mode expected).after steps).finish ∧
        Finished (max 1 expected) (steps.filterMap Step.duration?)
          ((start workload query engine mode expected).after steps).finish) ∧
      ∀ f : Fault,
        Shows workload query engine mode expected steps
          (((start workload query engine mode expected).after steps).fail f) ∧
        Failed f (((start workload query engine mode expected).after steps).fail f)) ∧
    ∀ (σ : Type) (o : Runner.Options) (d : Detector) (id : RunId) (env : Environment)
      (suite : List Workload) (c : Client σ) (s : World σ) (a : Artifact),
      (Runner.run o d id env suite c s).1 = .ok a → ∀ m ∈ a.results, m.InStep := by
  refine ⟨fun workload query engine mode expected steps => ⟨⟨?_,?_⟩,fun f => ⟨?_,?_⟩⟩,?_⟩
  · exact shows_finish workload query engine mode expected steps
  · exact finished_after_start workload query engine mode expected steps
  · exact shows_conclude workload query engine mode expected steps .incomplete _
  · exact failed_fail _ f
  · intro σ o d id env suite c s a h
    obtain ⟨_,_,_,hyields⟩ := Runner.yields_inStep o d id env suite c s
    exact hyields a h

/-- Two notes come twice while three samples are taken. -/
def Recorder.notedTwice : List Step :=
  [.annotate ["b","a"],.record .one ⟨0,0⟩,.annotate ["a","c","b"],.record .zero ⟨1,0⟩,
    .record .one ⟨2,0⟩]

/-- More samples than are expected; and a run with a timeout, an index that cannot be built and a
workload that is left out. -/
theorem Recorder.summarizes_full_only_hotAndCold :
    (∃ m, m = ((start "w" "q" "smol" .cold 2).after notedTwice).finish ∧ m.status = .ok ∧
      m.annotations = ["b","a","c"] ∧ m.samples.map Sample.duration = [.one,.zero,.one] ∧
      m.summary.isSome = true) ∧
    ∃ a, (Runner.run { budgetNanos := some 10 } ⟨none,.standard,"smol"⟩ default (.ofCapacity none)
        [.hotAndCold,.hotAndCold]
        (.failingAt [(9,.queryTimeout "SELECT 1;" 5),(17,.queryFailed "no such method")])
        ⟨0,#[]⟩).1 = .ok a ∧
      a.results.map Measurement.status =
        [.incomplete,.ok,.skipped,.skipped,.skipped,.skipped,.skipped,.skipped] ∧
      ∀ m ∈ a.results, m.InStep := by
  obtain ⟨hrecorder,hrun⟩ := summarizes_full_only
  refine ⟨⟨_,rfl,?_⟩,?_⟩
  · obtain ⟨⟨hshows,hfinished⟩,-⟩ := hrecorder "w" "q" "smol" .cold 2 notedTwice
    have hok := hfinished.ok_iff.mpr (by decide)
    obtain ⟨-,s,hs,-⟩ := hfinished.ok hok
    have hnotes : (notedTwice.flatMap Step.notes).eraseDups = ["b","a","c"] := by decide
    exact ⟨hok,hshows.annotations.trans hnotes,hshows.durations,Option.isSome_of_eq_some hs⟩
  · obtain ⟨a,ha,hstatus⟩ : ∃ a,
        (Runner.run { budgetNanos := some 10 } ⟨none,.standard,"smol"⟩ default (.ofCapacity none)
          [.hotAndCold,.hotAndCold]
          (.failingAt [(9,.queryTimeout "SELECT 1;" 5),(17,.queryFailed "no such method")])
          ⟨0,#[]⟩).1 = .ok a ∧
        a.results.map Measurement.status =
          [.incomplete,.ok,.skipped,.skipped,.skipped,.skipped,.skipped,.skipped] :=
      ok_of_toOption (by decide +kernel)
    exact ⟨a,ha,hstatus,hrun _ _ _ _ _ _ _ _ _ ha⟩

end IndexTrial
