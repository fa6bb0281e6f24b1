import IndexTrial.Proofs.Trial.Account

/-!
The order of an execution's calls. After the data each engine has its turn: the index is dropped and
built, the session set up, every query run, and the index dropped; a turn whose index cannot be
built ends there, and the other engine has its own all the same. The session is reset last.
-/

namespace IndexTrial

/-- The engine's index was built, and its turn taken to the end. -/
structure EngineShare.CarriedThrough (o : TrialOptions) (w : Workload) (s : EngineShare) : Prop where
  index : ∃ index, Built w s.engine s.build index ∧ ∀ m ∈ s.results, m.index = some index
  session : s.session.map Exchange.call = [.execute
    ("SET enable_seqscan = off; SET enable_bitmapscan = off; SET enable_indexonlyscan = on; " ++
      s!"SET max_parallel_workers_per_gather = {w.parallelism};")]
  queries : s.queries.map QueryShare.query = w.queries
  runs : ∀ u ∈ s.queries, Reports u.evicted u.exchanges ∧
    Carried (planOf o w s.engine u.query u.evicted) u.exchanges u.fault
  tidying : s.tidying.map Exchange.call = [.execute (dropIndexSql w s.engine)]

/-- The engine's index could not be built, and its turn ended with the statement that failed. -/
structure EngineShare.GivenUp (w : Workload) (s : EngineShare) : Prop where
  exchanges : ∃ f, f.isFatal = false ∧
    (s.exchanges = [⟨.execute (dropIndexSql w s.engine),.error f⟩] ∨
      ∃ x, s.exchanges = [⟨.execute (dropIndexSql w s.engine),.ok x⟩,
        ⟨.execute (w.createIndexSql s.engine),.error f⟩])
  queries : s.queries.map QueryShare.query = w.queries
  unindexed : ∀ m ∈ s.results, m.status = .skipped ∧ m.index = none

/-- The calls of an execution that had its data: both engines in turn, and the tidying up. -/
def Executor.RunsThrough (o : TrialOptions) (w : Workload) (es : List Exchange)
    (results : List Measurement) : Prop :=
  ∃ (data : List Exchange) (d : Bool × Option Nat) (base cand : EngineShare)
      (tidying : List Exchange),
    es = data ++ base.exchanges ++ cand.exchanges ++ tidying ∧ DataPhase o w data (.ok d) ∧
    results = base.results ++ cand.results ∧
    base.engine = o.engines.baseline ∧ cand.engine = o.engines.candidate ∧
    (∀ s ∈ [base,cand], s.CarriedThrough o w ∨ s.GivenUp w) ∧
    tidying.map Exchange.call = .execute
      ("RESET enable_seqscan; RESET enable_bitmapscan; RESET enable_indexonlyscan; " ++
        "RESET max_parallel_workers_per_gather;") ::
      if o.reuseData then [] else [.execute s!"DROP TABLE IF EXISTS {w.table} CASCADE;"]

/-- The calls of an execution without data: nothing follows the loading that failed. -/
def Executor.EndsLoading (o : TrialOptions) (w : Workload) (es : List Exchange)
    (results : List Measurement) : Prop :=
  ∃ look load f, es = look ++ load ∧ RowsFound o w.table look none ∧
    w.loading.Plays load (.error f) ∧ f.isFatal = false ∧
    ∀ m ∈ results, m.status = .skipped ∧ m.index = none

/-- Only the index itself can make its building fail: the size may remain unknown. -/
theorem build_of_fault {w : Workload} {engine : String} {es : List Exchange} {f : Fault}
    (h : Carried (buildPlan w engine) es (some f)) (hf : f.isFatal = false) :
    es = [⟨.execute (dropIndexSql w engine),.error f⟩] ∨
      ∃ x, es = [⟨.execute (dropIndexSql w engine),.ok x⟩,
        ⟨.execute (w.createIndexSql engine),.error f⟩] := by
  rcases h.required_cases with rfl | ⟨x,rest,rfl,hrest⟩
  · exact .inl rfl
  · rcases hrest.required_cases with rfl | ⟨_,size,rfl,hsize⟩
    · exact .inr ⟨x,rfl⟩
    · have hfatal := hsize.isFatal_of_optional (by simp [PlannedCall.optional]) rfl
      simp [hf] at hfatal

theorem QueryShare.Unmeasured.unindexed {w : Workload} {engine reason : String} {u : QueryShare}
    (h : u.Unmeasured w engine reason) : u.result.status = .skipped ∧ u.result.index = none := by
  rw [h.result]
  exact ⟨rfl,rfl⟩

namespace EngineShare

variable {o : TrialOptions} {w : Workload} {s : EngineShare}

theorem Settled.carriedThrough (h : s.Settled o w) (hindexed : s.Indexed w)
    (hbuild : s.buildFault = none) : s.CarriedThrough o w := by
  obtain ⟨hsession,htidying,hruns⟩ := h.built hbuild
  refine ⟨hindexed.built hbuild,hsession.calls_eq,h.queries,fun u hu => ?_,htidying.calls_eq⟩
  obtain ⟨m,index,hm,_⟩ := hruns u hu
  exact ⟨hm.reports,hm.carried⟩

theorem Settled.givenUp (h : s.Settled o w) (hindexed : s.Indexed w) {f : Fault}
    (hbuild : s.buildFault = some f) : s.GivenUp w := by
  obtain ⟨hsession,htidying,hqueries⟩ := h.unbuilt f hbuild
  have hf := hindexed.unbuilt f hbuild
  have hcarried := h.build
  rw [hbuild] at hcarried
  have hnone : s.queries.flatMap QueryShare.exchanges = [] := by
    simpa using fun u hu => (hqueries u hu).exchanges
  have hexchanges : s.exchanges = s.build := by simp [exchanges,hsession,htidying,hnone]
  refine ⟨⟨f,hf,?_⟩,h.queries,?_⟩
  · rw [hexchanges]
    exact build_of_fault hcarried hf
  · simpa [results] using fun u hu => (hqueries u hu).unindexed

theorem Settled.turn (h : s.Settled o w) (hindexed : s.Indexed w) :
    s.CarriedThrough o w ∨ s.GivenUp w := by
  cases hbuild : s.buildFault with
  | none => exact .inl (h.carriedThrough hindexed hbuild)
  | some f => exact .inr (h.givenUp hindexed hbuild)

end EngineShare

theorem Executor.DataPhase.missing {o : TrialOptions} {w : Workload} {es : List Exchange}
    {f : Fault} (h : DataPhase o w es (.error f)) :
    ∃ look load g, es = look ++ load ∧ RowsFound o w.table look none ∧
      w.loading.Plays load (.error g) ∧ g.isFatal = false := by
  cases h with
  | failed hlook hload hf => exact ⟨_,_,_,rfl,hlook,hload,hf⟩

namespace Account

variable {o : TrialOptions} {w : Workload} {a : Account}

theorem Fits.runsThrough (h : a.Fits o w) {d : Bool × Option Nat} (hd : a.loaded = .ok d)
    (hindexed : ∀ s ∈ a.engines, s.Indexed w) :
    Executor.RunsThrough o w a.exchanges a.results := by
  obtain ⟨htidying,hsettled⟩ := h.present d hd
  have hdata := h.data
  have hpair := h.engines
  rw [hd] at hdata
  obtain ⟨base,_,hengines,hbase,hpair⟩ := List.map_eq_cons_iff.mp hpair
  obtain ⟨cand,_,rfl,hcand,hpair⟩ := List.map_eq_cons_iff.mp hpair
  obtain rfl := List.map_eq_nil_iff.mp hpair
  rw [hengines] at hsettled hindexed
  refine ⟨a.data,d,base,cand,a.tidying,?_,hdata,?_,hbase,hcand,?_,?_⟩
  · simp [exchanges,hengines]
  · simp [results,hengines]
  · exact fun s hs => (hsettled s hs).turn (hindexed s hs)
  · change _ = Call.execute Executor.resetSql :: _
    rw [htidying.calls_eq]
    cases ho : o.reuseData <;> simp [tidyPlan,ho,PlannedCall.optional]

theorem Fits.endsLoading (h : a.Fits o w) {f : Fault} (hf : a.loaded = .error f) :
    Executor.EndsLoading o w a.exchanges a.results := by
  obtain ⟨htidying,huntouched⟩ := h.missing f hf
  have hdata := h.data
  have hnone : a.engines.flatMap EngineShare.exchanges = [] := by
    simpa using fun s hs => (huntouched s hs).exchanges
  rw [hf] at hdata
  have hunindexed : ∀ m ∈ a.results, m.status = .skipped ∧ m.index = none := by
    intro m hm
    obtain ⟨s,hs,hm⟩ := List.mem_flatMap.mp hm
    obtain ⟨u,hu,rfl⟩ := List.mem_map.mp hm
    exact ((huntouched s hs).unmeasured u hu).unindexed
  obtain ⟨look,load,g,hes,hlook,hload,hg⟩ := hdata.missing
  refine ⟨look,load,g,?_,hlook,hload,hg,hunindexed⟩
  simp [exchanges,htidying,hnone,hes]

end Account

/-- Whatever the client answers, an execution that gives a report makes its calls in this order, and
its results hold the figures of their own engine's index. -/
theorem Executor.execute_in_order {σ : Type} (o : TrialOptions) (w : Workload) (c : Client σ)
    (s : World σ) {report : Report} (h : (execute o w c s).1 = .ok report) :
    ∃ es, (execute o w c s).2.log.toList = s.log.toList ++ es ∧
      c.Answers s.state es (execute o w c s).2.state ∧
      (report.outcome.status = .completed ∧ RunsThrough o w es report.results ∨
        report.outcome.status = .skipped ∧ EndsLoading o w es report.results) := by
  obtain ⟨es,hlog,hanswers,hyields⟩ := yields_execute_indexed o w c s
  obtain ⟨a,rfl,hfits,⟨⟨elapsed,houtcome⟩,hresults⟩,hindexed⟩ := hyields report h
  refine ⟨a.exchanges,hlog,hanswers,?_⟩
  rw [houtcome,hresults]
  cases hloaded : a.loaded with
  | ok d => exact .inl ⟨rfl,hfits.runsThrough hloaded (hindexed d hloaded)⟩
  | error f => exact .inr ⟨rfl,hfits.endsLoading hloaded⟩

/-- An index whose size is not to be had, and one that cannot be built. -/
theorem Executor.execute_in_order_hotAndCold :
    ∃ report, (execute {} .hotAndCold
        (.failingAt [(5,.queryFailed "no size"),(17,.queryFailed "no such method")])
        ⟨0,#[]⟩).1 = .ok report ∧
      report.results.map (fun m => m.index.map IndexFigures.sizeBytes) =
        [some none,some none,none,none] ∧
      ∃ es, RunsThrough {} .hotAndCold es report.results := by
  obtain ⟨report,hrun,hfacts⟩ : ∃ report, (execute {} .hotAndCold
      (.failingAt [(5,.queryFailed "no size"),(17,.queryFailed "no such method")])
      ⟨0,#[]⟩).1 = .ok report ∧
      (report.outcome.status,report.results.map fun m => m.index.map IndexFigures.sizeBytes) =
        (.completed,[some none,some none,none,none]) :=
    ok_of_toOption (by decide +kernel)
  obtain ⟨hstatus,hsizes⟩ := Prod.ext_iff.mp hfacts
  obtain ⟨es,_,_,⟨_,hcalls⟩ | ⟨hskipped,_⟩⟩ := execute_in_order _ _ _ _ hrun
  · exact ⟨report,hrun,hsizes,es,hcalls⟩
  · cases hstatus.symm.trans hskipped

end IndexTrial
