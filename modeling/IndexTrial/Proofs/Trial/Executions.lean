import IndexTrial.Proofs.Measure.Recording
import IndexTrial.Proofs.Trial.Loading
import IndexTrial.Proofs.Trial.Measuring

/-!
A plan counts the executions that follow the preparation. Whenever a query is measured in full, the
executions after its preparation are as many as its plan has, and its samples are all of them but
the one to discard. The count is a 32-bit word, which is too short for one plan only.
-/

namespace IndexTrial

/-- The numbers of a query are 32-bit words. -/
structure Query.InWords (q : Query) : Prop where
  repeats : ∀ n ∈ q.repeats, n < 2 ^ 32
  shape : q.shape.defaultRepeat < 2 ^ 32

theorem Query.InWords.configuredRepeat_lt {q : Query} (h : q.InWords) :
    q.configuredRepeat < 2 ^ 32 := by
  have hrepeats : q.repeats.getD q.shape.defaultRepeat < 2 ^ 32 := by
    cases hq : q.repeats with
    | none => exact h.shape
    | some n => exact h.repeats n (by simp [hq])
  unfold configuredRepeat
  omega

/-- The one plan that is longer than any word: a warm query with as many repeats as a word can say,
and an execution to discard. -/
def Query.PassesWord (q : Query) : Prop :=
  q.mode = .warm ∧ q.warmup = true ∧ q.configuredRepeat = 2 ^ 32 - 1

instance (q : Query) : Decidable q.PassesWord :=
  inferInstanceAs (Decidable (q.mode = .warm ∧ q.warmup = true ∧ q.configuredRepeat = 2 ^ 32 - 1))

theorem length_samplingPlan (q : Query) : (samplingPlan q).length =
    q.sampleCount + (q.warmup && decide (q.mode = .warm)).toNat := by
  rw [samplingPlan_eq,List.length_append,List.length_replicate,Nat.add_comm]
  cases q.warmup && decide (q.mode = .warm) <;> rfl

/-- The length of a plan is counted, unless it is the one that is too long. -/
theorem executions_samplingPlan {q : Query} (hq : q.InWords) :
    SamplingPlan.executions ⟨q.warmup && decide (q.mode = .warm),q.sampleCount⟩ =
      if q.PassesWord then .error .additionOverflow else .ok (samplingPlan q).length := by
  have hlt := hq.configuredRepeat_lt
  rw [length_samplingPlan]
  by_cases hwarm : q.mode = .warm ∧ q.warmup = true
  · have hcount : q.sampleCount = q.configuredRepeat := by simp [Query.sampleCount,hwarm.1]
    by_cases hmax : q.configuredRepeat = 2 ^ 32 - 1
    · have hpasses : q.PassesWord := ⟨hwarm.1,hwarm.2,hmax⟩
      simp [SamplingPlan.executions,addWord,hcount,hwarm,hpasses,hmax]
    · have hpasses : ¬ q.PassesWord := fun h => hmax h.2.2
      have hfits : q.configuredRepeat < 2 ^ 32 - 1 := by omega
      simpa [SamplingPlan.executions,addWord,hcount,hwarm,hpasses] using hfits
  · have hpasses : ¬ q.PassesWord := fun h => hwarm ⟨h.1,h.2.1⟩
    have hnone : (q.warmup && decide (q.mode = .warm)) = false := by
      simpa [and_comm] using hwarm
    have hfits : q.sampleCount < 2 ^ 32 := by
      unfold Query.sampleCount
      split <;> omega
    simpa [SamplingPlan.executions,addWord,hnone,hpasses] using hfits

theorem Carried.ended_eq_none {ps : List PlannedCall} {es : List Exchange} {ended : Option Fault}
    (h : Carried ps es ended) (hes : ∀ e ∈ es, e.fault? = none) : ended = none := by
  cases ended with
  | none => rfl
  | some f =>
    obtain ⟨before,e,rfl,he⟩ := h.last
    rw [hes e (by simp)] at he
    cases he

/-- None of the exchanges that the run adds to the log failed. -/
def Session.Unharmed {σ α : Type} (x : Session σ α) (c : Client σ) (s : World σ) : Prop :=
  ∀ es, (x c s).2.log.toList = s.log.toList ++ es → ∀ e ∈ es, e.fault? = none

theorem Client.Answers.fault?_eq_none {σ : Type} {c : Client σ}
    (hc : ∀ call state, ∃ answer, (c.answer call state).1 = .ok answer) {s t : σ}
    {es : List Exchange} (h : c.Answers s es t) : ∀ e ∈ es, e.fault? = none := by
  induction h with
  | done s => simp
  | tick _ ih => exact ih
  | @call s t es call _ ih =>
    have hanswer := hc call s
    have hfirst : (Exchange.mk call (c.answer call s).1).fault? = none := by
      obtain ⟨answer,hanswer⟩ := hanswer
      rw [fault?_mk,hanswer,faultOf_ok]
    simpa [hfirst] using ih

/-- A client that never fails harms no session. -/
theorem Session.Ensures.unharmed {σ α : Type} {x : Session σ α}
    {P : List Exchange → Except Fault α → Prop} (hx : x.Ensures P) {c : Client σ}
    (hc : ∀ call state, ∃ answer, (c.answer call state).1 = .ok answer) (s : World σ) :
    x.Unharmed c s := by
  obtain ⟨fs,hlog,hanswers,-⟩ := hx c s
  intro es hes
  have hsame : fs = es := List.append_cancel_left (hlog.symm.trans hes)
  rw [← hsame]
  exact hanswers.fault?_eq_none hc

/-- A warm query of three measured executions. -/
def Query.warmThrice : Query where
  id := "warm"
  sql := "SELECT 3;"
  shape := .custom 3
  mode := .warm

namespace Executor

variable {σ : Type} {o : TrialOptions} {w : Workload} {engine : String} {q : Query} {c : Client σ}
  {s s' : World σ} {p : Preparation} {m : Measurement}

/-- The preparation of a query on an engine's index. -/
def prepared (o : TrialOptions) (w : Workload) (engine : String) (q : Query) :
    Session σ Preparation :=
  Caching.prepareQuery o.evictFiles (indexName w.table engine) w.table q

theorem runQuery_of_prepared (h : prepared o w engine q c s = (.ok p,s')) :
    runQuery o w engine q c s = measure q.sql (SamplingPlan.ofQuery q p)
      ((Recorder.start w.id q.id engine q.mode (SamplingPlan.ofQuery q p).repeats).annotate
        p.annotations) c s' := by
  have hattempt : (prepared o w engine q).attempt c s = (.ok (.ok p),s') := by
    rw [Session.attempt,h]
  rw [prepared] at hattempt
  simp only [runQuery,Session.bind_run,hattempt]

theorem status_of_unprepared {f : Fault} (h : prepared o w engine q c s = (.error f,s'))
    (hm : (runQuery o w engine q c s).1 = .ok m) : m.status = .incomplete := by
  have hattempt : (prepared o w engine q).attempt c s =
      if f.isFatal then (.error f,s') else (.ok (.error f),s') := by
    rw [Session.attempt,h]
  rw [prepared] at hattempt
  simp only [runQuery,Session.bind_run,hattempt] at hm
  cases hf : f.isFatal with
  | true => simp [hf] at hm
  | false =>
    simp only [hf,Bool.false_eq_true,if_false,Session.pure_run,Except.ok.injEq] at hm
    rw [← hm,Recorder.fail,Recorder.conclude]

theorem ensures_measure_start (w : Workload) (engine : String)
    (hprimed : q.mode ≠ .cold → p.primed = decide (q.mode = .hot)) :
    (measure q.sql (SamplingPlan.ofQuery q p)
      ((Recorder.start w.id q.id engine q.mode (SamplingPlan.ofQuery q p).repeats).annotate
        p.annotations) : Session σ Measurement).Ensures
      (Concludes (samplingPlan q) (recorderOf w engine q [] (addNotes [] p.annotations))
        q.sampleCount) := by
  simp only [ofQuery_eq hprimed,start_eq]
  exact ensures_measure q _

theorem prepared_ok (h : prepared o w engine q c s = (.ok p,s')) :
    q.mode ≠ .cold → p.primed = decide (q.mode = .hot) := by
  obtain ⟨es,-,-,evicted,-,-,hprimed⟩ :=
    Caching.ensures_prepareQuery o.evictFiles (indexName_ne w.table engine) q c s
  rw [prepared] at h
  exact hprimed p (by rw [h])

/-- Without a failure the query is brought to its mode and measured in full. -/
theorem ok_of_unharmed (h : (runQuery o w engine q).Unharmed c s) :
    ∃ m, (runQuery o w engine q c s).1 = .ok m ∧ m.status = .ok := by
  obtain ⟨es,evicted,ended,hlog,-,-,hcarried,herror,hok⟩ := runQuery_carries_plan o w engine q c s
  have hended : ended = none := hcarried.ended_eq_none (h es hlog)
  cases hrun : (runQuery o w engine q c s).1 with
  | error f =>
    have hcut := ((herror f).mp hrun).1
    rw [hended] at hcut
    cases hcut
  | ok m => exact ⟨m,rfl,(hok m hrun).2.1.mpr hended⟩

/-- What follows the preparation of a query that is measured in full: as many executions of it as
its plan has, and a sample of each that is not discarded. -/
theorem sampled_of_ok (hm : (runQuery o w engine q c s).1 = .ok m) (hok : m.status = .ok) :
    ∃ p s' sampled, prepared o w engine q c s = (.ok p,s') ∧
      (runQuery o w engine q c s).2.log.toList = s'.log.toList ++ sampled ∧
      sampled.map Exchange.call = List.replicate (samplingPlan q).length (.execute q.sql) ∧
      m.samples.length = q.sampleCount := by
  cases hprep : prepared o w engine q c s with
  | mk r s' =>
    cases r with
    | error f =>
      rw [status_of_unprepared hprep hm] at hok
      cases hok
    | ok p =>
      have hrun := runQuery_of_prepared hprep
      obtain ⟨sampled,hlog,-,ended,samples,hcarried,-,hlength,hresult⟩ :=
        ensures_measure_start w engine (prepared_ok hprep) c s'
      rw [← hrun] at hlog hresult
      rw [hm] at hresult
      rcases Recorder.close_eq_ok hresult.symm with ⟨hended,hfinish⟩ | ⟨f,-,-,hfail⟩
      · have hcalls : sampled.map Exchange.call = (samplingPlan q).map PlannedCall.call :=
          (hended ▸ hcarried).calls_eq
        refine ⟨p,s',sampled,rfl,hlog,?_,?_⟩
        · rw [hcalls]
          exact List.map_eq_replicate_iff.mpr fun call hcall => call_of_mem_samplingPlan hcall
        · have hfull : samples.length = q.sampleCount := hlength hended
          rw [hfinish,Recorder.finish_full]
          · simpa [Recorder.conclude,recorderOf] using hfull
          · simpa [recorderOf] using Nat.le_of_eq hfull.symm
      · rw [hfail] at hok
        cases hok

/-- The execution count of a plan is what the query's run does. A query that no failure touches is
measured in full, and whenever one is, the executions after its preparation are as many as its plan
counts, and all but the one to discard gave a sample. Only the plan of a warm query with the largest
word of repeats, and an execution to discard, cannot be counted. -/
theorem executions_count_runs (o : TrialOptions) (w : Workload) (engine : String) {q : Query}
    (hq : q.InWords) (c : Client σ) (s : World σ) :
    ((runQuery o w engine q).Unharmed c s →
      ∃ m, (runQuery o w engine q c s).1 = .ok m ∧ m.status = .ok) ∧
    ∀ m, (runQuery o w engine q c s).1 = .ok m → m.status = .ok →
      ∃ p s' sampled, prepared o w engine q c s = (.ok p,s') ∧
        (runQuery o w engine q c s).2.log.toList = s'.log.toList ++ sampled ∧
        sampled.map Exchange.call = List.replicate sampled.length (.execute q.sql) ∧
        sampled.length = m.samples.length + (SamplingPlan.ofQuery q p).warmup.toNat ∧
        (SamplingPlan.ofQuery q p).executions =
          if q.PassesWord then .error .additionOverflow else .ok sampled.length := by
  refine ⟨ok_of_unharmed,fun m hm hok => ?_⟩
  obtain ⟨p,s',sampled,hprep,hlog,hcalls,hsamples⟩ := sampled_of_ok hm hok
  have hlength : sampled.length = (samplingPlan q).length := by
    simpa using congrArg List.length hcalls
  refine ⟨p,s',sampled,hprep,hlog,?_,?_,?_⟩
  · rw [hcalls,hlength]
  · rw [hlength,length_samplingPlan,hsamples,ofQuery_eq (prepared_ok hprep)]
  · rw [hlength,ofQuery_eq (prepared_ok hprep)]
    exact executions_samplingPlan hq

/-- Without a failure it runs four times. -/
theorem executions_count_runs_warm :
    ∃ m p s' sampled,
      (runQuery {} .hotAndCold "btree" .warmThrice (.failingAt []) ⟨0,#[]⟩).1 = .ok m ∧
      prepared {} .hotAndCold "btree" .warmThrice (.failingAt []) ⟨0,#[]⟩ = (.ok p,s') ∧
      (runQuery {} .hotAndCold "btree" .warmThrice (.failingAt []) ⟨0,#[]⟩).2.log.toList =
        s'.log.toList ++ sampled ∧
      sampled.map Exchange.call = List.replicate sampled.length (.execute "SELECT 3;") ∧
      (SamplingPlan.ofQuery .warmThrice p).executions = .ok sampled.length := by
  have hwords : Query.warmThrice.InWords := ⟨by decide,by decide⟩
  have hpasses : ¬ Query.warmThrice.PassesWord := by decide
  have hclient : ∀ call state, ∃ answer,
      ((Client.failingAt []).answer call state).1 = .ok answer := by
    intro call state
    cases call <;> exact ⟨_,rfl⟩
  obtain ⟨hfull,hcount⟩ :=
    executions_count_runs {} .hotAndCold "btree" hwords (.failingAt []) ⟨0,#[]⟩
  obtain ⟨m,hm,hok⟩ :=
    hfull ((ensures_runQuery {} .hotAndCold "btree" .warmThrice).unharmed hclient ⟨0,#[]⟩)
  obtain ⟨p,s',sampled,hprep,hlog,hcalls,-,hexecutions⟩ := hcount m hm hok
  rw [if_neg hpasses] at hexecutions
  exact ⟨m,p,s',sampled,hm,hprep,hlog,hcalls,hexecutions⟩

/-- The largest word of repeats leaves no room for the execution to discard. -/
theorem not_every_plan_counted :
    ¬ ∀ q : Query, q.InWords → ∀ p s',
      prepared {} .hotAndCold "btree" q (.failingAt []) ⟨0,#[]⟩ = (.ok p,s') →
        ∃ n, (SamplingPlan.ofQuery q p).executions = .ok n := by
  intro h
  obtain ⟨n,hn⟩ := h { Query.warmThrice with repeats := some (2 ^ 32 - 1) }
    ⟨by decide,by decide⟩ {} _ rfl
  have hfault : (SamplingPlan.ofQuery { Query.warmThrice with repeats := some (2 ^ 32 - 1) }
      {}).executions = .error .additionOverflow := rfl
  rw [hfault] at hn
  cases hn

end Executor

end IndexTrial
