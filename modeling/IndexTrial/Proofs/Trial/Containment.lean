import IndexTrial.Proofs.Trial.Account

/-!
Failure containment. What is read off an account about one result mentions its own unit only: the
data, the index of its engine, and the executions of its query that must not fail.
-/

namespace IndexTrial

/-- One of the query's own executions failed with `f`: the one that primes a hot query, the one
that is discarded, or a measured one. -/
def QueryShare.Fails (o : TrialOptions) (w : Workload) (engine : String) (u : QueryShare)
    (f : Fault) : Prop :=
  ∃ x ∈ (planOf o w engine u.query u.evicted).zip u.exchanges,
    x.1.role ≠ .optional ∧ x.2.fault? = some f

/-- The index of the engine could not be built, or there was nothing to build it on. -/
def Account.Lacks (a : Account) (s : EngineShare) : Prop :=
  (∃ f, a.loaded = .error f) ∨ ∃ f, s.buildFault = some f

/-- The result of a query on an engine says what became of its own unit. -/
structure QueryShare.Contained (o : TrialOptions) (w : Workload) (a : Account) (s : EngineShare)
    (u : QueryShare) : Prop where
  resultKey : u.result.resultKey = u.query.resultKey w.id s.engine
  repeats : u.result.repeats = if u.query.mode = .cold then 1 else u.query.configuredRepeat
  skipped_iff : u.result.status = .skipped ↔ a.Lacks s
  incomplete_iff : u.result.status = .incomplete ↔ ∃ f, u.Fails o w s.engine f
  ok_iff : u.result.status = .ok ↔ ¬ a.Lacks s ∧ ∀ f, ¬ u.Fails o w s.engine f
  samples : u.result.samples.map Sample.duration =
    measuredDurations (planOf o w s.engine u.query u.evicted) u.exchanges
  error : ∀ f, u.Fails o w s.engine f → f.isFatal = false ∧ u.result.error = some f.message
  error_ok : u.result.status = .ok → u.result.error = none

namespace QueryShare

variable {o : TrialOptions} {w : Workload} {a : Account} {s : EngineShare} {u : QueryShare}

theorem Unmeasured.contained {reason : String} (h : u.Unmeasured w s.engine reason)
    (hlacks : a.Lacks s) : u.Contained o w a s := by
  have hfails : ∀ f, ¬ u.Fails o w s.engine f := by
    rintro f ⟨x,hx,_⟩
    simp [h.exchanges] at hx
  have hstatus : u.result.status = .skipped := by rw [h.result]; rfl
  have hsamples : u.result.samples = [] := by rw [h.result]; rfl
  have hdurations : measuredDurations (planOf o w s.engine u.query u.evicted) u.exchanges = [] := by
    rw [h.exchanges]
    cases planOf o w s.engine u.query u.evicted <;> rfl
  refine ⟨by rw [h.result]; rfl,by rw [h.result]; rfl,?_,?_,?_,?_,?_,?_⟩
  · exact iff_of_true hstatus hlacks
  · simp [hstatus,hfails]
  · simp [hstatus,hlacks]
  · rw [hsamples,hdurations,List.map_nil]
  · exact fun f hf => absurd hf (hfails f)
  · simp [hstatus]

/-- A lost connection would have left no result. -/
theorem Run.fails_iff {engine : String} (h : u.Run o w engine) (f : Fault) :
    u.fault = some f ↔ u.Fails o w engine f := by
  obtain ⟨m,index,hm,_⟩ := h
  refine hm.carried.ended_iff (fun g hg => ?_) f
  cases hfatal : g.isFatal with
  | false => rfl
  | true => cases (hm.error_iff g).mpr ⟨hg,hfatal⟩

theorem Run.contained (h : u.Run o w s.engine) (hlacks : ¬ a.Lacks s) : u.Contained o w a s := by
  have hfails := h.fails_iff
  obtain ⟨m,index,hm,hresult⟩ := h
  have hkept := hm.error_iff
  obtain ⟨samples,notes,hdurations,rfl⟩ := hm.conclude
  have hstatus : u.result.status = if u.fault = none then .ok else .incomplete := by
    rw [hresult]; rfl
  have herror : u.result.error = u.fault.map Fault.message := by rw [hresult]; rfl
  have hsamples : u.result.samples = samples := by rw [hresult]; rfl
  have hsome : (∃ f, u.Fails o w s.engine f) ↔ u.fault ≠ none := by
    rw [Option.ne_none_iff_exists']
    exact exists_congr fun f => (hfails f).symm
  refine ⟨by rw [hresult]; rfl,by rw [hresult]; rfl,?_,?_,?_,?_,?_,?_⟩
  · rw [hstatus]
    split <;> simp [hlacks]
  · rw [hsome,hstatus]
    split <;> simp_all
  · rw [← not_exists,hsome,hstatus]
    split <;> simp_all
  · rw [hsamples,hdurations]
  · intro f hf
    have hfault := (hfails f).mpr hf
    refine ⟨?_,by rw [herror,hfault]; rfl⟩
    cases hfatal : f.isFatal with
    | false => rfl
    | true => cases (hkept f).mpr ⟨hfault,hfatal⟩
  · intro hok
    rw [herror]
    cases hfault : u.fault with
    | none => rfl
    | some f => simp [hstatus,hfault] at hok

end QueryShare

/-- A failure of the data is worded as one of loading, once. -/
theorem Executor.DataPhase.worded {o : TrialOptions} {w : Workload} {es : List Exchange} {f : Fault}
    (h : DataPhase o w es (.error f)) :
    ∃ look load g, es = look ++ load ∧ w.loading.Plays load (.error g) ∧ g.isFatal = false ∧
      f = match g with
        | .generation id reason => .generation id reason
        | g => .generation w.id g.message := by
  cases h with
  | failed hlook hload hf =>
    refine ⟨_,_,_,rfl,hload,hf,?_⟩
    rename_i g
    cases g with
    | connection m => simp [Fault.isFatal] at hf
    | _ => rfl

theorem Account.Fits.contained {o : TrialOptions} {w : Workload} {a : Account} (h : a.Fits o w)
    {s : EngineShare} (hs : s ∈ a.engines) {u : QueryShare} (hu : u ∈ s.queries) :
    u.Contained o w a s := by
  cases hloaded : a.loaded with
  | error f =>
    obtain ⟨_,huntouched⟩ := h.missing f hloaded
    exact ((huntouched s hs).unmeasured u hu).contained (.inl ⟨f,hloaded⟩)
  | ok d =>
    obtain ⟨_,hsettled⟩ := h.present d hloaded
    have hs := hsettled s hs
    cases hbuild : s.buildFault with
    | some f =>
      obtain ⟨_,_,hunmeasured⟩ := hs.unbuilt f hbuild
      exact (hunmeasured u hu).contained (.inr ⟨f,hbuild⟩)
    | none =>
      obtain ⟨_,_,hrun⟩ := hs.built hbuild
      exact (hrun u hu).contained (by simp [Account.Lacks,hloaded,hbuild])

/-- The status of a result is decided by its own unit, whatever failed elsewhere; and the workload
is skipped just if its data are missing, with the failure worded once. -/
theorem Executor.execute_contains_failures {σ : Type} (o : TrialOptions) (w : Workload)
    (c : Client σ) (s : World σ) {report : Report} (h : (execute o w c s).1 = .ok report) :
    ∃ a : Account, (execute o w c s).2.log.toList = s.log.toList ++ a.exchanges ∧
      c.Answers s.state a.exchanges (execute o w c s).2.state ∧ a.Fits o w ∧
      report.results = a.results ∧
      (∀ e ∈ a.engines, ∀ u ∈ e.queries, u.Contained o w a e) ∧
      (report.outcome.status = .skipped ↔ ∃ f, a.loaded = .error f) ∧
      ∀ f, a.loaded = .error f → report.outcome.error = some f.message ∧
        ∃ look load g, a.data = look ++ load ∧ w.loading.Plays load (.error g) ∧
          g.isFatal = false ∧ f = match g with
            | .generation id reason => .generation id reason
            | g => .generation w.id g.message := by
  obtain ⟨es,hlog,hanswers,hyields⟩ := yields_execute o w c s
  obtain ⟨a,rfl,hfits,⟨elapsed,houtcome⟩,hresults⟩ := hyields report h
  have hcontained : ∀ e ∈ a.engines, ∀ u ∈ e.queries, u.Contained o w a e :=
    fun e he u hu => hfits.contained he hu
  refine ⟨a,hlog,hanswers,hfits,hresults,hcontained,?_,fun f hf => ?_⟩
  · cases hloaded : a.loaded <;> simp [houtcome,hloaded,outcomeOf]
  · have hdata := hfits.data
    rw [hf] at hdata
    exact ⟨by simp [houtcome,hf,outcomeOf],hdata.worded⟩

/-- A query that times out on one engine, and an index of the other that cannot be built. -/
theorem Executor.execute_contains_failures_hotAndCold :
    ∃ report, (execute {} .hotAndCold
        (.failingAt [(9,.queryTimeout "SELECT 1;" 5),(17,.queryFailed "no such method")])
        ⟨0,#[]⟩).1 = .ok report ∧
      report.results.map Measurement.status = [.incomplete,.ok,.skipped,.skipped] ∧
      ∃ a : Account, a.Fits {} .hotAndCold ∧ report.results = a.results ∧
        ∀ e ∈ a.engines, ∀ u ∈ e.queries, u.Contained {} .hotAndCold a e := by
  obtain ⟨report,hrun,hstatus⟩ : ∃ report, (execute {} .hotAndCold
      (.failingAt [(9,.queryTimeout "SELECT 1;" 5),(17,.queryFailed "no such method")])
      ⟨0,#[]⟩).1 = .ok report ∧
      report.results.map Measurement.status = [.incomplete,.ok,.skipped,.skipped] :=
    ok_of_toOption (by decide +kernel)
  obtain ⟨a,_,_,hfits,hresults,hcontained,_⟩ := execute_contains_failures _ _ _ _ hrun
  exact ⟨report,hrun,hstatus,a,hfits,hresults,hcontained⟩

end IndexTrial
