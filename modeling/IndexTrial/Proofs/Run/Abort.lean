import IndexTrial.Benchmark
import IndexTrial.Proofs.Trial.Loading
import IndexTrial.Proofs.Trial.Measuring
import IndexTrial.Proofs.Workload.Overflow

/-!
Only a lost connection ends a run early, and it does so at once. Everything between the first clock
reading and the artifact is resilient; the loading of data is, if its script passes on a loss.
-/

namespace IndexTrial

/-- The run ended early just if a call lost the connection; then that call was its last, and its
fault is the run's. -/
structure OnlyLossAborts {α : Type} (es : List Exchange) (r : Except Fault α) : Prop where
  error_iff : (∃ f, r = .error f) ↔ ∃ e ∈ es, e.isLost = true
  error_eq : ∀ f, r = .error f → ∃ m before call, f = .connection m ∧
    es = before ++ [⟨call,.error f⟩] ∧ ∀ e ∈ before, e.isLost = false

theorem LossAtEnd.onlyLossAborts {α : Type} {es : List Exchange} {r : Except Fault α}
    (h : LossAtEnd es (faultOf r)) : OnlyLossAborts es r := by
  cases r with
  | ok a =>
    have hkept := h.not_lost
    exact ⟨by simpa using hkept,by simp⟩
  | error f =>
    rw [faultOf_error] at h
    cases h with
    | @last before call _ hbefore hf =>
      obtain ⟨m,rfl⟩ := Fault.isFatal_iff.mp hf
      refine ⟨iff_of_true ⟨_,rfl⟩ ⟨⟨call,.error (.connection m)⟩,by simp,rfl⟩,?_⟩
      rintro f ⟨⟩
      exact ⟨m,before,call,rfl,rfl,hbefore⟩

theorem OnlyLossAborts.map {α β : Type} {es : List Exchange} {r : Except Fault α}
    (h : OnlyLossAborts es r) (f : α → β) : OnlyLossAborts es (r.map f) := by
  cases r with
  | ok a => exact ⟨by simpa [Except.map] using h.error_iff,by simp [Except.map]⟩
  | error e =>
    refine ⟨by simpa [Except.map] using h.error_iff,fun f hf => ?_⟩
    exact h.error_eq f (congrArg Except.error (Except.error.inj hf))

/-- Without a loss there is a result. -/
theorem OnlyLossAborts.ok_iff {α : Type} {es : List Exchange} {r : Except Fault α}
    (h : OnlyLossAborts es r) : (∃ a, r = .ok a) ↔ ∀ e ∈ es, e.isLost = false := by
  have herror := h.error_iff
  cases r with
  | ok a => simpa using herror
  | error e => simpa using herror

/-- A plan that is carried out stops at a lost connection. -/
theorem Carried.lossAtEnd {ps : List PlannedCall} {es : List Exchange} {ended : Option Fault}
    (h : Carried ps es ended) : LossAtEnd es (ended.filter Fault.isFatal) := by
  induction h with
  | done => exact .never (by simp)
  | @next p ps e es ended hcall hgoes hrest ih =>
    have hone : LossAtEnd [e] none := by
      refine .never fun e' he' => ?_
      rw [List.mem_singleton.mp he',isLost_eq]
      cases hf : e.fault? with
      | none => rfl
      | some f =>
        have hkept := Option.filter_eq_none_iff.mp hgoes f hf
        simp_all
    exact hone.append ih
  | @cut p ps e f hcall hends =>
    obtain ⟨call,reply⟩ := e
    obtain ⟨hf,_⟩ := Option.filter_eq_some_iff.mp hends
    have h := LossAtEnd.single reply
    rwa [← fault?_mk call reply,hf] at h

theorem Measured.lossAtEnd {o : TrialOptions} {w : Workload} {engine : String} {q : Query}
    {evicted : String → Bool} {es : List Exchange} {ended : Option Fault}
    {result : Except Fault Measurement} (h : Measured o w engine q evicted es ended result) :
    LossAtEnd es (faultOf result) := by
  obtain ⟨samples,notes,_,_,rfl⟩ := h.recorded
  have hclose : ∀ r : Recorder, faultOf (r.close ended) = ended.filter Fault.isFatal := by
    intro r
    cases ended with
    | none => rfl
    | some f => cases hf : f.isFatal <;> simp [Recorder.close,hf,Option.filter_some]
  rw [hclose]
  exact h.carried.lossAtEnd

namespace Session

variable {σ : Type}

theorem passesLoss_relationSize (relation : String) :
    (relationSize relation : Session σ Nat).PassesLoss :=
  (passesLoss_execute _).bind fun _ => (resilient_pure _).passesLoss

theorem passesLoss_tableRowCount (table : String) :
    (tableRowCount table : Session σ (Option Nat)).PassesLoss := by
  refine PassesLoss.bind ((passesLoss_execute _).bind fun _ => (resilient_pure _).passesLoss) ?_
  intro there
  cases there with
  | true => exact (passesLoss_execute _).bind fun _ => (resilient_pure _).passesLoss
  | false => exact (resilient_pure _).passesLoss

end Session

namespace Executor

variable {σ : Type}

theorem resilient_reusableRows (o : TrialOptions) (table : String) :
    (reusableRows o table : Session σ (Option Nat)).Resilient := by
  unfold reusableRows
  split
  · refine (Session.passesLoss_tableRowCount table).attempt.bind fun there => ?_
    split <;> exact Session.resilient_pure _
  · exact Session.resilient_pure _

theorem passesLoss_ensureData (o : TrialOptions) {w : Workload} (hw : w.loading.Forwards) :
    (ensureData o w : Session σ (Bool × Option Nat)).PassesLoss := by
  refine (resilient_reusableRows o w.table).passesLoss.bind fun found => ?_
  cases found with
  | some rows => exact (Session.resilient_pure _).passesLoss
  | none =>
    refine (hw.passesLoss.mapFault (Fault.isFatal_asGeneration w.id)
      fun _ => Fault.asGeneration_of_isFatal w.id).bind fun _ => ?_
    refine (Session.passesLoss_tableRowCount w.table).attempt.passesLoss.bind fun count => ?_
    cases count <;> exact (Session.resilient_pure _).passesLoss

theorem passesLoss_buildIndex (w : Workload) (engine : String) :
    (buildIndex w engine : Session σ IndexFigures).PassesLoss := by
  have hworded : ∀ sql, ((Session.execute sql).mapFault (.asIndexBuild engine) :
      Session σ Execution).PassesLoss := fun sql =>
    (Session.passesLoss_execute sql).mapFault (Fault.isFatal_asIndexBuild engine)
      fun _ => Fault.asIndexBuild_of_isFatal engine
  refine (hworded _).bind fun _ => (hworded _).bind fun build => ?_
  exact (Session.passesLoss_relationSize _).attempt.passesLoss.bind fun _ =>
    (Session.resilient_pure _).passesLoss

theorem resilient_housekeep (sql : String) : (housekeep sql : Session σ Unit).Resilient :=
  (Session.passesLoss_execute sql).attempt.bind fun _ => Session.resilient_pure ()

theorem resilient_runQuery (o : TrialOptions) (w : Workload) (engine : String) (q : Query) :
    (runQuery o w engine q : Session σ Measurement).Resilient :=
  (ensures_runQuery o w engine q).mono fun _ _ ⟨_,_,h⟩ => h.lossAtEnd

theorem resilient_runEngine (o : TrialOptions) (w : Workload) (engine : String) :
    (runEngine o w engine : Session σ (List Measurement)).Resilient := by
  refine (passesLoss_buildIndex w engine).attempt.bind fun built => ?_
  cases built with
  | error f => exact Session.resilient_pure _
  | ok index =>
    have hqueries : (runQueries o w engine index : Session σ (List Measurement)).Resilient :=
      Session.resilient_collect (fun q => (resilient_runQuery o w engine q).bind fun _ =>
        Session.resilient_pure _) w.queries
    exact (resilient_housekeep _).bind fun _ => hqueries.bind fun ms =>
      (resilient_housekeep _).bind fun _ => Session.resilient_pure ms

theorem resilient_runEngines (o : TrialOptions) (w : Workload) :
    (runEngines o w : Session σ (List Measurement)).Resilient := by
  refine (resilient_runEngine o w _).bind fun base => (resilient_runEngine o w _).bind fun cand => ?_
  refine (resilient_housekeep resetSql).bind fun _ => ?_
  cases o.reuseData with
  | true => exact Session.resilient_pure _
  | false => exact (resilient_housekeep _).bind fun _ => Session.resilient_pure _

theorem resilient_execute (o : TrialOptions) {w : Workload} (hw : w.loading.Forwards) :
    (execute o w : Session σ Report).Resilient := by
  refine Session.resilient_readClock.bind fun start => ?_
  refine (passesLoss_ensureData o hw).attempt.bind fun data => ?_
  have hstop : ∀ report : Report, (do
      let stop ← Session.readClock
      return { report with
        outcome := { report.outcome with elapsedSeconds := secondsBetween start stop } } :
      Session σ Report).Resilient := fun report =>
    Session.resilient_readClock.bind fun stop => Session.resilient_pure _
  cases data with
  | error f => exact (Session.resilient_pure _).bind hstop
  | ok d => exact (resilient_runEngines o w).bind fun _ => (Session.resilient_pure _).bind hstop

end Executor

namespace Runner

variable {σ : Type}

theorem resilient_checkBudget (deadline : Nat) (exhausted : Bool) :
    (checkBudget deadline exhausted : Session σ Bool).Resilient := by
  unfold checkBudget
  split
  · exact Session.resilient_pure _
  · exact Session.resilient_readClock.bind fun _ => Session.resilient_pure _

theorem resilient_runWorkloads (o : TrialOptions) (deadline : Nat) (exhausted : Bool)
    {suite : List Workload} (hsuite : ∀ w ∈ suite, w.loading.Forwards) :
    (runWorkloads o deadline exhausted suite :
      Session σ (Bool × List Executor.Report)).Resilient := by
  induction suite generalizing exhausted with
  | nil => exact Session.resilient_pure _
  | cons w ws ih =>
    obtain ⟨hw,hws⟩ := List.forall_mem_cons.mp hsuite
    refine (resilient_checkBudget deadline exhausted).bind fun exhausted => ?_
    have hrest : ∀ report, (runWorkloads o deadline exhausted ws >>= fun r =>
        pure (r.1,report :: r.2) : Session σ (Bool × List Executor.Report)).Resilient := fun report =>
      (ih exhausted hws).bind fun _ => Session.resilient_pure _
    cases exhausted with
    | true => exact (Session.resilient_pure _).bind hrest
    | false => exact (Executor.resilient_execute o hw).bind hrest

theorem resilient_run (o : Options) (d : Detector) (id : RunId) (env : Environment)
    {suite : List Workload} (hsuite : ∀ w ∈ suite, w.loading.Forwards) :
    (run o d id env suite : Session σ Artifact).Resilient := by
  refine Session.resilient_now.bind fun startedAt => Session.resilient_readClock.bind fun start => ?_
  refine (resilient_runWorkloads o.trial _ false hsuite).bind fun _ => ?_
  refine Session.resilient_readClock.bind fun stop => Session.resilient_now.bind fun finishedAt => ?_
  exact Session.resilient_pure _

end Runner

/-- What is asked before a run. -/
def probeCalls : List Call :=
  [.readCapacity,.execute "SHOW server_version;",.execute "SHOW max_parallel_workers_per_gather;"]

theorem unfailing_probe {σ : Type} : (Session.probe : Session σ Environment).Unfailing probeCalls := by
  have hversion : (Session.serverVersion : Session σ (Option String)).Unfailing
      [.execute "SHOW server_version;"] :=
    (Session.unfailing_attemptAny _).bind fun _ => Session.unfailing_pure _
  have hworkers : (Session.maxParallelWorkers : Session σ (Option Nat)).Unfailing
      [.execute "SHOW max_parallel_workers_per_gather;"] :=
    (Session.unfailing_attemptAny _).bind fun _ => Session.unfailing_pure _
  exact (Session.unfailing_attemptAny .readCapacity).bind fun _ => hversion.bind fun _ =>
    hworkers.bind fun _ => Session.unfailing_pure _

theorem PatternWorkload.isFatal_describeFault (id : String) (f : Fault) :
    (describeFault id f).isFatal = f.isFatal := by
  unfold describeFault
  split
  · rfl
  · simp_all [Fault.isFatal]

theorem PatternWorkload.describeFault_of_isFatal (id : String) {f : Fault} (hf : f.isFatal = true) :
    describeFault id f = f := by
  simp [describeFault,hf]

theorem PatternWorkload.forwards_loading (w : PatternWorkload) : w.toWorkload.loading.Forwards :=
  LoadScript.forwards_ofStatements (isFatal_describeFault w.id)
    (fun _ => describeFault_of_isFatal w.id) w.statements

theorem Suite.forwards_workloads {mode : SuiteMode} {env : Environment} {seed : Nat}
    {suite : List Workload} (h : Suite.workloads mode env seed = .ok suite) :
    ∀ w ∈ suite, w.loading.Forwards := by
  unfold workloads at h
  cases hbuild : Suite.build mode env seed with
  | error e => simp [hbuild,Except.map] at h
  | ok ps =>
    simp only [hbuild,Except.map,Except.ok.injEq] at h
    subst h
    simpa using fun p _ => p.forwards_loading

/-! ### A client that fails at given calls -/

namespace Client

variable {faults : List (Nat × Fault)} {n m : Nat} {es : List Exchange}

/-- The state of the client counts its calls. -/
theorem state_failingAt (h : (failingAt faults).Answers n es m) : m = n + es.length := by
  induction h with
  | done s => rfl
  | tick _ ih => exact ih
  | @call n m es call _ ih =>
    have hcounted : ((failingAt faults).answer call n).2 = n + 1 := by
      cases hfault : faults.lookup n <;> cases call <;> simp [failingAt,hfault]
    rw [ih,hcounted,List.length_cons]
    omega

/-- Past all the calls that are listed nothing fails. -/
theorem not_lost_failingAt (h : (failingAt faults).Answers n es m) (hpast : ∀ x ∈ faults, x.1 < n) :
    ∀ e ∈ es, e.isLost = false := by
  induction h with
  | done s => simp
  | tick _ ih => exact ih hpast
  | @call n m es call _ ih =>
    have hnone : faults.lookup n = none := List.lookup_eq_none_iff.mpr fun x hx => by
      simpa using Nat.ne_of_gt (hpast x hx)
    have hanswer : ∃ x, (failingAt faults).answer call n = (.ok x,n + 1) := by
      cases call <;> exact ⟨_,by simp only [failingAt,hnone]; rfl⟩
    obtain ⟨x,hanswer⟩ := hanswer
    rw [hanswer] at ih ⊢
    exact List.forall_mem_cons.mpr ⟨rfl,ih fun y hy => Nat.lt_succ_of_lt (hpast y hy)⟩

end Client

theorem Suite.exists_workloads (mode : SuiteMode) (env : Environment) (seed : Nat) :
    ∃ suite, Suite.workloads mode env seed = .ok suite := by
  obtain ⟨suite,hsuite⟩ := Suite.exists_build mode env seed
  exact ⟨_,by rw [workloads,hsuite]; rfl⟩

namespace Benchmark

variable {σ : Type}

/-- The run that a benchmark comes to, once its probe has found an environment. -/
def suiteRun (s : Settings) (mode : SuiteMode) (id : RunId) (files : FileTree) (env : Environment)
    (suite : List Workload) : Session σ Artifact :=
  Runner.run (s.runner mode) (s.detector (Baseline.loadUsable files s.paths.baseline)) id env suite

theorem run_of_probe (s : Settings) (mode : SuiteMode) (id : RunId) (files : FileTree)
    {c : Client σ} {x y : World σ} {env : Environment} {suite : List Workload}
    (hprobe : Session.probe c x = (.ok env,y))
    (hsuite : Suite.workloads mode env s.run.seed = .ok suite) :
    run s mode id files c x = ((suiteRun s mode id files env suite c y).1.map .ok,
      (suiteRun s mode id files env suite c y).2) := by
  simp only [run,Session.bind_run,hprobe,hsuite]
  cases hrun : suiteRun s mode id files env suite c y with
  | mk r z =>
    rw [suiteRun] at hrun
    rw [hrun]
    cases r <;> rfl

/-- A benchmark came past its probe, whatever the three calls of it were answered. All else that it
asked was asked by the run of a suite, whose artifact or fault is the benchmark's. -/
structure PassesProbe (s : Settings) (mode : SuiteMode) (id : RunId) (files : FileTree)
    (c : Client σ) (x : World σ) (probed es : List Exchange) : Prop where
  calls : probed.map Exchange.call = probeCalls
  ran : ∃ env suite y, Session.probe c x = (.ok env,y) ∧ y.log.toList = x.log.toList ++ probed ∧
    Suite.workloads mode env s.run.seed = .ok suite ∧
    run s mode id files c x = ((suiteRun s mode id files env suite c y).1.map .ok,
      (suiteRun s mode id files env suite c y).2) ∧
    (suiteRun s mode id files env suite c y).2.log.toList = y.log.toList ++ es ∧
    OnlyLossAborts es (suiteRun s mode id files env suite c y).1
  artifact_iff : (∃ a, (run s mode id files c x).1 = .ok (.ok a)) ↔ ∀ e ∈ es, e.isLost = false

/-- A run ends early only by a lost connection, with its fault and at that call; all other faults
are passed over. A whole benchmark is a probe and a run. The three calls of the probe do not count:
whatever they are answered, the run follows, and without a loss in it there is an artifact. -/
theorem only_loss_aborts (c : Client σ) (s : World σ) :
    (∀ o d id env suite, (∀ w ∈ suite, w.loading.Forwards) →
      ∃ es, (Runner.run o d id env suite c s).2.log.toList = s.log.toList ++ es ∧
        c.Answers s.state es (Runner.run o d id env suite c s).2.state ∧
        OnlyLossAborts es (Runner.run o d id env suite c s).1) ∧
    ∀ settings mode id files,
      ∃ probed es,
        (run settings mode id files c s).2.log.toList = s.log.toList ++ (probed ++ es) ∧
        c.Answers s.state (probed ++ es) (run settings mode id files c s).2.state ∧
        PassesProbe settings mode id files c s probed es ∧
        OnlyLossAborts es (run settings mode id files c s).1 := by
  refine ⟨fun o d id env suite hsuite => ?_,fun settings mode id files => ?_⟩
  · obtain ⟨es,hlog,hanswers,h⟩ := Runner.resilient_run o d id env hsuite c s
    exact ⟨es,hlog,hanswers,h.onlyLossAborts⟩
  obtain ⟨probed,hprobed,hprobeAnswers,hcalls,env,henv⟩ := unfailing_probe c s
  obtain ⟨y,hprobe⟩ : ∃ y, Session.probe c s = (.ok env,y) := ⟨_,Prod.ext henv rfl⟩
  obtain ⟨suite,hsuite⟩ := Suite.exists_workloads mode env settings.run.seed
  have hrun := run_of_probe settings mode id files hprobe hsuite
  obtain ⟨es,hlog,hanswers,h⟩ := Runner.resilient_run (settings.runner mode)
    (settings.detector (Baseline.loadUsable files settings.paths.baseline)) id env
    (Suite.forwards_workloads hsuite) c y
  rw [hprobe] at hprobed hprobeAnswers
  have hran : OnlyLossAborts es (suiteRun settings mode id files env suite c y).1 :=
    h.onlyLossAborts
  have hpasses : PassesProbe settings mode id files c s probed es := by
    refine ⟨hcalls,⟨env,suite,y,hprobe,hprobed,hsuite,hrun,hlog,hran⟩,?_⟩
    rw [← hran.ok_iff,hrun]
    cases (suiteRun settings mode id files env suite c y).1 <;> simp [Except.map]
  have hmapped : OnlyLossAborts es (run settings mode id files c s).1 := by
    rw [hrun]
    exact hran.map Except.ok
  refine ⟨probed,es,?_,?_,hpasses,hmapped⟩
  · rw [hrun,← List.append_assoc,← hprobed]
    exact hlog
  · rw [hrun]
    exact hprobeAnswers.append hanswers

/-- One index cannot be built, and the connection is lost while the other is. A benchmark whose whole
probe lost the connection, and nothing after it, has an artifact. -/
theorem only_loss_aborts_hotAndCold :
    (∀ w ∈ [Workload.hotAndCold], w.loading.Forwards) ∧
    (∃ es, (Runner.run {} ⟨none,.standard,"smol"⟩ default (.ofCapacity none) [.hotAndCold]
        (.failingAt [(3,.queryFailed "locked"),(4,.connection "gone")]) ⟨0,#[]⟩).2.log.toList =
          [] ++ es ∧
      OnlyLossAborts es (Runner.run {} ⟨none,.standard,"smol"⟩ default (.ofCapacity none)
        [.hotAndCold] (.failingAt [(3,.queryFailed "locked"),(4,.connection "gone")]) ⟨0,#[]⟩).1 ∧
      es.map Exchange.isLost = [false,false,false,false,true]) ∧
    ∃ a, (run {} .quick default ⟨[]⟩ (.failingAt [(0,.connection "gone"),(1,.connection "gone"),
      (2,.connection "gone")]) ⟨0,#[]⟩).1 = .ok (.ok a) := by
  have hforwards : ∀ w ∈ [Workload.hotAndCold], w.loading.Forwards := by
    intro w hw
    rw [List.mem_singleton.mp hw]
    exact LoadScript.forwards_ofStatements (Fault.isFatal_asGeneration "lookup")
      (fun _ => Fault.asGeneration_of_isFatal "lookup") _
  obtain ⟨es,hlog,_,h⟩ := (only_loss_aborts
    (.failingAt [(3,.queryFailed "locked"),(4,.connection "gone")]) ⟨0,#[]⟩).1
    {} ⟨none,.standard,"smol"⟩ default (.ofCapacity none) [.hotAndCold] hforwards
  obtain ⟨probed,fs,_,hanswers,hpasses,_⟩ := (only_loss_aborts
    (.failingAt [(0,.connection "gone"),(1,.connection "gone"),(2,.connection "gone")]) ⟨0,#[]⟩).2
    {} .quick default ⟨[]⟩
  refine ⟨hforwards,⟨es,hlog,h,?_⟩,hpasses.artifact_iff.mpr ?_⟩
  · rw [List.nil_append] at hlog
    rw [← hlog]
    decide +kernel
  · obtain ⟨n,hprobed,hrest⟩ := hanswers.split
    have hlength : probed.length = 3 := by simpa [probeCalls] using congrArg List.length hpasses.calls
    have hpast : n = 3 := by rw [Client.state_failingAt hprobed,hlength]
    rw [hpast] at hrest
    exact Client.not_lost_failingAt hrest (by simp)

end Benchmark

end IndexTrial
