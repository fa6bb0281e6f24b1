import IndexTrial.Proofs.Trial.Loading
import IndexTrial.Proofs.Trial.Measuring

/-!
The exchanges of a workload, shared out among its units: the data, each engine's index, each query
on each engine, and the tidying up. Every execution that ends without a fault has such an account,
and its report can be read off it.
-/

namespace IndexTrial

/-- What the results of a run are told apart by. -/
structure ResultKey where
  workload : String
  query : String
  engine : String
  mode : CacheMode
  deriving DecidableEq, Repr

def Measurement.resultKey (m : Measurement) : ResultKey := ⟨m.workload,m.query,m.engine,m.mode⟩

def Query.resultKey (workload engine : String) (q : Query) : ResultKey :=
  ⟨workload,q.id,engine,q.mode⟩

/-- The keys that a workload owes: each engine in turn, each with all queries. -/
def Workload.resultKeys (engines : EnginePair) (w : Workload) : List ResultKey :=
  engines.toList.flatMap fun engine => w.queries.map (Query.resultKey w.id engine)

/-- What one query on one engine was given and what became of it. -/
structure QueryShare where
  query : Query
  /-- What the requests to evict a relation's buffers came to. -/
  evicted : String → Bool := fun _ => false
  exchanges : List Exchange := []
  /-- The fault that cut the query's plan. -/
  fault : Option Fault := none
  result : Measurement

structure EngineShare where
  engine : String
  build : List Exchange := []
  /-- The fault that cut the building of the index. -/
  buildFault : Option Fault := none
  session : List Exchange := []
  queries : List QueryShare
  tidying : List Exchange := []

structure Account where
  data : List Exchange
  /-- Whether the data were loaded, and the rows; or why there are none. -/
  loaded : Except Fault (Bool × Option Nat)
  engines : List EngineShare
  tidying : List Exchange := []

def EngineShare.exchanges (s : EngineShare) : List Exchange :=
  s.build ++ s.session ++ s.queries.flatMap QueryShare.exchanges ++ s.tidying

def EngineShare.results (s : EngineShare) : List Measurement := s.queries.map QueryShare.result

def Account.exchanges (a : Account) : List Exchange :=
  a.data ++ a.engines.flatMap EngineShare.exchanges ++ a.tidying

def Account.results (a : Account) : List Measurement := a.engines.flatMap EngineShare.results

def dropIndexSql (w : Workload) (engine : String) : String :=
  s!"DROP INDEX IF EXISTS {indexName w.table engine};"

def indexSizeSql (w : Workload) (engine : String) : String :=
  s!"SELECT pg_relation_size('{indexName w.table engine}');"

/-- A stale index is dropped and the new one built; only its size may remain unknown. -/
def buildPlan (w : Workload) (engine : String) : List PlannedCall :=
  [.required (dropIndexSql w engine),.required (w.createIndexSql engine),
    .optional (indexSizeSql w engine)]

/-- With these exchanges the engine's index was built, and these are its figures. -/
def Built (w : Workload) (engine : String) (es : List Exchange) (index : IndexFigures) : Prop :=
  ∃ (dropped created : Execution) (size : Except Fault Execution),
    es = [⟨.execute (dropIndexSql w engine),.ok dropped⟩,
      ⟨.execute (w.createIndexSql engine),.ok created⟩,⟨.execute (indexSizeSql w engine),size⟩] ∧
    index = ⟨engine,indexName w.table engine,size.toOption.map fun x => Session.countOf x.scalar,
      some created.durationMs⟩

def tidyPlan (o : TrialOptions) (w : Workload) : List PlannedCall :=
  .optional Executor.resetSql ::
    if o.reuseData then [] else [.optional s!"DROP TABLE IF EXISTS {w.table} CASCADE;"]

/-- The query was not run on the engine, for a reason that is not its own. -/
structure QueryShare.Unmeasured (w : Workload) (engine reason : String) (u : QueryShare) : Prop where
  exchanges : u.exchanges = []
  fault : u.fault = none
  result : u.result =
    .unmeasured w.id u.query.id engine u.query.mode u.query.sampleCount reason

/-- The share of a query that is not run on an engine. -/
def QueryShare.passedOver (w : Workload) (engine reason : String) (q : Query) : QueryShare where
  query := q
  result := .unmeasured w.id q.id engine q.mode q.sampleCount reason

theorem QueryShare.unmeasured_passedOver (w : Workload) (engine reason : String) (q : Query) :
    (passedOver w engine reason q).Unmeasured w engine reason :=
  ⟨rfl,rfl,rfl⟩

/-- The query was run on the engine by its plan. -/
def QueryShare.Run (o : TrialOptions) (w : Workload) (engine : String) (u : QueryShare) : Prop :=
  ∃ m index, Measured o w engine u.query u.evicted u.exchanges u.fault (.ok m) ∧
    u.result = { m with index := some index }

/-- Nothing was done for the engine. -/
structure EngineShare.Untouched (w : Workload) (reason : String) (s : EngineShare) : Prop where
  exchanges : s.exchanges = []
  buildFault : s.buildFault = none
  queries : s.queries.map QueryShare.query = w.queries
  unmeasured : ∀ u ∈ s.queries, u.Unmeasured w s.engine reason

/-- The engine's index was built and its queries run, or it could not be built and they were not. -/
structure EngineShare.Settled (o : TrialOptions) (w : Workload) (s : EngineShare) : Prop where
  build : Carried (buildPlan w s.engine) s.build s.buildFault
  queries : s.queries.map QueryShare.query = w.queries
  unbuilt : ∀ f, s.buildFault = some f → s.session = [] ∧ s.tidying = [] ∧
    ∀ u ∈ s.queries, u.Unmeasured w s.engine (f.asIndexBuild s.engine).message
  built : s.buildFault = none →
    Carried [.optional (Executor.sessionSql w.parallelism)] s.session none ∧
    Carried [.optional (dropIndexSql w s.engine)] s.tidying none ∧
    ∀ u ∈ s.queries, u.Run o w s.engine

/-- The results of an engine that was measured hold the figures of its index. -/
structure EngineShare.Indexed (w : Workload) (s : EngineShare) : Prop where
  built : s.buildFault = none → ∃ index, Built w s.engine s.build index ∧
    ∀ m ∈ s.results, m.index = some index
  unbuilt : ∀ f, s.buildFault = some f → f.isFatal = false

structure Account.Fits (o : TrialOptions) (w : Workload) (a : Account) : Prop where
  data : Executor.DataPhase o w a.data a.loaded
  engines : a.engines.map EngineShare.engine = o.engines.toList
  missing : ∀ f, a.loaded = .error f → a.tidying = [] ∧ ∀ s ∈ a.engines, s.Untouched w f.message
  present : ∀ d, a.loaded = .ok d → Carried (tidyPlan o w) a.tidying none ∧
    ∀ s ∈ a.engines, s.Settled o w

/-- What holds of every query that was run, and of one that was not, holds of all results. -/
theorem Account.Fits.forall_results {P : Measurement → Prop} {o : TrialOptions} {w : Workload}
    {a : Account} (h : a.Fits o w)
    (hunmeasured : ∀ workload query engine mode repeats reason,
      P (.unmeasured workload query engine mode repeats reason))
    (hrun : ∀ {engine : String} {u : QueryShare}, u.Run o w engine → P u.result) :
    ∀ m ∈ a.results, P m := by
  have hleft : ∀ {engine reason : String} {u : QueryShare},
      u.Unmeasured w engine reason → P u.result := fun hu => by
    rw [hu.result]
    exact hunmeasured ..
  intro m hm
  obtain ⟨s,hs,hm⟩ := List.mem_flatMap.mp hm
  obtain ⟨u,hu,rfl⟩ := List.mem_map.mp hm
  cases hloaded : a.loaded with
  | error f => exact hleft (((h.missing f hloaded).2 s hs).unmeasured u hu)
  | ok d =>
    have hsettled := (h.present d hloaded).2 s hs
    cases hbuild : s.buildFault with
    | none => exact hrun ((hsettled.built hbuild).2.2 u hu)
    | some f => exact hleft ((hsettled.unbuilt f hbuild).2.2 u hu)

/-- The outcome of a workload, given what became of its data. -/
def outcomeOf (w : Workload) (elapsed : Binary64) : Except Fault (Bool × Option Nat) → Outcome
  | .ok (generated,rowCount) =>
    { workload := w.id, description := w.description, table := w.table, status := .completed
      generated, rowCount, elapsedSeconds := elapsed }
  | .error f =>
    { workload := w.id, description := w.description, table := w.table, status := .skipped
      error := some f.message, elapsedSeconds := elapsed }

/-- The report says what the account says. -/
structure Account.Tells (w : Workload) (a : Account) (report : Executor.Report) : Prop where
  outcome : ∃ elapsed, report.outcome = outcomeOf w elapsed a.loaded
  results : report.results = a.results

namespace Executor

variable {σ : Type}

theorem follows_housekeep (sql : String) : (housekeep sql : Session σ Unit).Follows [.optional sql] :=
  (Session.follows_execute sql).attempt.bind_nil fun _ => Session.follows_pure ()

theorem follows_relationSize (relation : String) :
    (Session.relationSize relation : Session σ Nat).Follows
      [.required s!"SELECT pg_relation_size('{relation}');"] :=
  (Session.follows_execute _).bind_nil fun _ => Session.follows_pure _

theorem yields_relationSize (relation : String) :
    (Session.relationSize relation : Session σ Nat).attempt.Yields fun es size =>
      ∃ reply : Except Fault Execution,
        es = [⟨.execute s!"SELECT pg_relation_size('{relation}');",reply⟩] ∧
        size.toOption = reply.toOption.map fun x => Session.countOf x.scalar := by
  have hsize : (Session.relationSize relation : Session σ Nat).Ensures fun es size =>
      ∃ reply : Except Fault Execution,
        es = [⟨.execute s!"SELECT pg_relation_size('{relation}');",reply⟩] ∧
        size.toOption = reply.toOption.map fun x => Session.countOf x.scalar := by
    refine (Session.ensures_ask_map (.execute _) _).mono ?_
    rintro es size ⟨reply,hes,rfl⟩
    exact ⟨reply,hes,by cases reply <;> rfl⟩
  exact Session.Ensures.yields hsize.handed fun es size h => h.1

theorem followsWorded_buildIndex (w : Workload) (engine : String) :
    (buildIndex w engine : Session σ IndexFigures).FollowsWorded (.asIndexBuild engine)
      (buildPlan w engine) := by
  have hsize : (Session.relationSize (indexName w.table engine) : Session σ Nat).attempt.FollowsWorded
      (.asIndexBuild engine)
      [.optional (indexSizeSql w engine)] :=
    (follows_relationSize _).attempt.worded (by simp [PlannedCall.optional])
      fun _ => Fault.asIndexBuild_of_isFatal engine
  refine ((Session.follows_execute (dropIndexSql w engine)).mapFault _).bind fun _ => ?_
  refine ((Session.follows_execute (w.createIndexSql engine)).mapFault _).bind fun build => ?_
  exact hsize.bind fun _ => (Session.follows_pure _).worded (by simp)
    fun _ => Fault.asIndexBuild_of_isFatal engine

theorem yields_buildIndex (w : Workload) (engine : String) :
    (buildIndex w engine : Session σ IndexFigures).Yields (Built w engine) := by
  have hexecute : ∀ sql, ((Session.execute sql).mapFault (.asIndexBuild engine) :
      Session σ Execution).Yields fun es x => es = [⟨.execute sql,.ok x⟩] := by
    intro sql
    refine Session.Ensures.mapFault ((Session.ensures_ask (.execute sql)).mono ?_)
    rintro es reply rfl x hx
    cases reply with
    | ok y => cases hx; rfl
    | error f => cases hx
  refine (hexecute (dropIndexSql w engine)).bind ?_
  rintro _ dropped rfl
  refine (hexecute (w.createIndexSql engine)).bind ?_
  rintro _ created rfl
  refine (yields_relationSize _).bind ?_
  rintro _ size ⟨reply,rfl,hsize⟩
  exact Session.Yields.pure ⟨dropped,created,reply,rfl,by rw [hsize]⟩

theorem map_query_passedOver (w : Workload) (engine reason : String) (qs : List Query) :
    (qs.map (QueryShare.passedOver w engine reason)).map QueryShare.query = qs := by
  simp [Function.comp_def,QueryShare.passedOver]

theorem exchanges_passedOver (w : Workload) (engine reason : String) (qs : List Query) :
    (qs.map (QueryShare.passedOver w engine reason)).flatMap QueryShare.exchanges = [] := by
  simp [QueryShare.passedOver]

theorem result_passedOver (w : Workload) (engine reason : String) (qs : List Query) :
    (qs.map (QueryShare.passedOver w engine reason)).map QueryShare.result =
      unmeasured w.id engine qs reason := by
  simp [unmeasured,QueryShare.passedOver,repeats_ofQuery]

theorem yields_runQueries (o : TrialOptions) (w : Workload) (engine : String)
    (index : IndexFigures) :
    (runQueries o w engine index : Session σ (List Measurement)).Yields fun es ms =>
      ∃ us : List QueryShare, us.map QueryShare.query = w.queries ∧
        es = us.flatMap QueryShare.exchanges ∧ ms = us.map QueryShare.result ∧
        ∀ u ∈ us, u.Run o w engine ∧ u.result.index = some index := by
  unfold runQueries
  induction w.queries with
  | nil => exact Session.Yields.pure ⟨[],rfl,rfl,rfl,by simp⟩
  | cons q qs ih =>
    have hone : (do
        let m ← runQuery o w engine q
        return { m with index := some index } : Session σ Measurement).Yields fun es m =>
          ∃ u : QueryShare, u.query = q ∧ es = u.exchanges ∧ m = u.result ∧
            u.Run o w engine ∧ u.result.index = some index := by
      refine Session.Yields.bind (Session.Ensures.yields (ensures_runQuery o w engine q)
        fun es m h => h) ?_
      rintro es m ⟨evicted,ended,h⟩
      refine Session.Yields.pure ⟨⟨q,evicted,es,ended,{ m with index := some index }⟩,rfl,?_,rfl,
        ⟨m,index,h,rfl⟩,rfl⟩
      rw [List.append_nil]
    refine Session.Yields.bind hone ?_
    rintro es m ⟨u,rfl,rfl,rfl,hu⟩
    refine Session.Yields.bind ih ?_
    rintro fs ms ⟨us,rfl,rfl,rfl,hus⟩
    refine Session.Yields.pure ⟨u :: us,rfl,by simp,rfl,?_⟩
    simpa using ⟨hu,hus⟩

theorem yields_runEngine (o : TrialOptions) (w : Workload) (engine : String) :
    (runEngine o w engine : Session σ (List Measurement)).Yields fun es ms =>
      ∃ s : EngineShare, s.engine = engine ∧ es = s.exchanges ∧ ms = s.results ∧
        s.Settled o w ∧ s.Indexed w := by
  refine Session.Yields.bind (Session.Ensures.yields
    ((followsWorded_buildIndex w engine).and (yields_buildIndex w engine)).handed
    fun es handed h => h) ?_
  rintro build handed ⟨⟨⟨built,hbuild,rfl⟩,hbuilt⟩,hf⟩
  cases built with
  | error f =>
    refine Session.Yields.pure ⟨⟨engine,build,some f,[],
      w.queries.map (QueryShare.passedOver w engine (f.asIndexBuild engine).message),[]⟩,
      rfl,?_,?_,?_,⟨by simp,?_⟩⟩
    · simp [EngineShare.exchanges,exchanges_passedOver]
    · exact (result_passedOver w engine _ w.queries).symm
    · refine ⟨hbuild,map_query_passedOver w engine _ w.queries,?_,by simp⟩
      rintro g ⟨⟩
      simpa using fun q hq => QueryShare.unmeasured_passedOver w engine _ q
    · rintro g ⟨⟩
      exact (Fault.isFatal_asIndexBuild engine f).symm.trans (hf _ rfl)
  | ok index =>
    have hhousekeep : ∀ sql, (housekeep sql : Session σ Unit).Yields fun es _ =>
        Carried [.optional sql] es none := fun sql => (follows_housekeep sql).yields
    refine Session.Yields.bind (hhousekeep _) fun session _ hsession => ?_
    refine Session.Yields.bind (yields_runQueries o w engine index) ?_
    rintro _ _ ⟨us,hus,rfl,rfl,hrun⟩
    refine Session.Yields.bind (hhousekeep _) fun tidying _ htidying => ?_
    have hfigures := hbuilt index rfl
    have hname : index.name = indexName w.table engine := by
      obtain ⟨_,_,_,_,rfl⟩ := hfigures
      rfl
    rw [hname] at htidying
    refine Session.Yields.pure ⟨⟨engine,build,none,session,us,tidying⟩,rfl,?_,rfl,?_,?_⟩
    · simp [EngineShare.exchanges]
    · exact ⟨hbuild,hus,by simp,fun _ => ⟨hsession,htidying,fun u hu => (hrun u hu).1⟩⟩
    · exact ⟨fun _ => ⟨index,hfigures,by simpa [EngineShare.results] using fun u hu => (hrun u hu).2⟩,
        by simp⟩

/-- The share of an engine of a workload that has no data. -/
def leftAlone (w : Workload) (reason engine : String) : EngineShare where
  engine
  queries := w.queries.map (QueryShare.passedOver w engine reason)

theorem untouched_leftAlone (w : Workload) (reason engine : String) :
    (leftAlone w reason engine).Untouched w reason where
  exchanges := by simp [leftAlone,EngineShare.exchanges,exchanges_passedOver]
  buildFault := rfl
  queries := map_query_passedOver w engine reason w.queries
  unmeasured := by simpa [leftAlone] using fun q _ => QueryShare.unmeasured_passedOver w engine reason q

theorem results_leftAlone (w : Workload) (reason engine : String) :
    (leftAlone w reason engine).results = unmeasured w.id engine w.queries reason :=
  result_passedOver w engine reason w.queries

/-- What the two engines and the tidying up come to. -/
def EnginesSettled (o : TrialOptions) (w : Workload) (es : List Exchange) (ms : List Measurement) :
    Prop :=
  ∃ (ss : List EngineShare) (tidying : List Exchange),
    es = ss.flatMap EngineShare.exchanges ++ tidying ∧ ms = ss.flatMap EngineShare.results ∧
    ss.map EngineShare.engine = o.engines.toList ∧ Carried (tidyPlan o w) tidying none ∧
    ∀ s ∈ ss, s.Settled o w ∧ s.Indexed w

theorem yields_runEngines (o : TrialOptions) (w : Workload) :
    (runEngines o w : Session σ (List Measurement)).Yields (EnginesSettled o w) := by
  refine Session.Yields.bind (yields_runEngine o w o.engines.baseline) ?_
  rintro _ _ ⟨base,hbase,rfl,rfl,hbase'⟩
  refine Session.Yields.bind (yields_runEngine o w o.engines.candidate) ?_
  rintro _ _ ⟨cand,hcand,rfl,rfl,hcand'⟩
  refine Session.Yields.bind (follows_housekeep resetSql).yields fun reset _ hreset => ?_
  have hengines : [base,cand].map EngineShare.engine = o.engines.toList := by
    simp [EnginePair.toList,hbase,hcand]
  have hsettled : ∀ s ∈ [base,cand], s.Settled o w ∧ s.Indexed w := by
    simpa using ⟨hbase',hcand'⟩
  have htidied : ∀ drop, Carried (tidyPlan o w) (reset ++ drop) none →
      EnginesSettled o w (base.exchanges ++ (cand.exchanges ++ (reset ++ drop)))
        (base.results ++ cand.results) := fun drop hdrop =>
    ⟨[base,cand],reset ++ drop,by simp,by simp,hengines,hdrop,hsettled⟩
  cases ho : o.reuseData with
  | true => exact Session.Yields.pure (htidied [] (by simpa [tidyPlan,ho] using hreset))
  | false =>
    refine Session.Yields.bind (follows_housekeep _).yields fun drop _ hdrop => ?_
    refine Session.Yields.pure ?_
    rw [List.append_nil]
    exact htidied drop (by simpa [tidyPlan,ho] using hreset.append hdrop)

theorem yields_execute_indexed (o : TrialOptions) (w : Workload) :
    (execute o w : Session σ Report).Yields fun es report =>
      ∃ a : Account, es = a.exchanges ∧ a.Fits o w ∧ a.Tells w report ∧
        ∀ d, a.loaded = .ok d → ∀ s ∈ a.engines, s.Indexed w := by
  refine Session.Yields.bind Session.yields_readClock ?_
  rintro _ start rfl
  refine Session.Yields.bind (Session.Ensures.yields (ensures_ensureData o w).handed
    fun es handed h => h) ?_
  rintro data handed ⟨hdata,hf⟩
  cases handed with
  | error f =>
    have hdata' : DataPhase o w data (.error f) := by
      rcases hdata with hdata | ⟨g,hg,hg'⟩
      · exact hdata
      · cases hg
        simpa [hf f rfl] using hg'.isFatal
    refine Session.Yields.pure_bind (Session.Yields.bind Session.yields_readClock ?_)
    rintro _ stop rfl
    refine Session.Yields.pure ⟨⟨data,.error f,o.engines.toList.map (leftAlone w f.message),[]⟩,
      ?_,⟨hdata',by simp [Function.comp_def,leftAlone],?_,by simp⟩,⟨⟨_,rfl⟩,?_⟩,by simp⟩
    · simp [Account.exchanges,(untouched_leftAlone w f.message _).exchanges]
    · rintro g ⟨⟩
      exact ⟨rfl,by simpa using fun engine _ => untouched_leftAlone w f.message engine⟩
    · simp [skippedReport,unmeasuredBoth,Account.results,List.flatMap_map,results_leftAlone]
  | ok d =>
    obtain ⟨generated,rowCount⟩ := d
    refine Session.Yields.bind (yields_runEngines o w) ?_
    rintro _ _ ⟨ss,tidying,rfl,rfl,hengines,htidying,hsettled⟩
    refine Session.Yields.pure_bind (Session.Yields.bind Session.yields_readClock ?_)
    rintro _ stop rfl
    refine Session.Yields.pure ⟨⟨data,.ok (generated,rowCount),ss,tidying⟩,
      by simp [Account.exchanges],⟨?_,hengines,by simp,?_⟩,⟨⟨_,rfl⟩,rfl⟩,?_⟩
    · simpa using hdata
    · exact fun d _ => ⟨htidying,fun s hs => (hsettled s hs).1⟩
    · exact fun d _ s hs => (hsettled s hs).2

/-- Every execution that ends without a fault has an account. -/
theorem yields_execute (o : TrialOptions) (w : Workload) :
    (execute o w : Session σ Report).Yields fun es report =>
      ∃ a : Account, es = a.exchanges ∧ a.Fits o w ∧ a.Tells w report :=
  Session.Ensures.yields (yields_execute_indexed o w) fun es report h => by
    obtain ⟨a,hes,hfits,htells,_⟩ := h report rfl
    exact ⟨a,hes,hfits,htells⟩

end Executor

end IndexTrial
