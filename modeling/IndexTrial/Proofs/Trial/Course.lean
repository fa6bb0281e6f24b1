import IndexTrial.Proofs.Trial.Account

/-!
The course of an execution, however it ends. A lost connection cuts it at any call; what came before
is the same as in an execution that runs to its end.
-/

namespace IndexTrial

/-- The exchanges about one engine, by what they were for. -/
structure Turn where
  engine : String
  build : List Exchange
  session : List Exchange := []
  queries : List Exchange := []
  tidying : List Exchange := []

def Turn.exchanges (t : Turn) : List Exchange := t.build ++ t.session ++ t.queries ++ t.tidying

/-- Queries measured one after the other, to the last of them or to the loss of the connection. -/
inductive Queried (o : TrialOptions) (w : Workload) (engine : String) :
    List Query → List Exchange → Option Fault → Prop
  | done : Queried o w engine [] [] none
  | next {q : Query} {qs : List Query} {evicted : String → Bool} {es fs : List Exchange}
      {ended lost : Option Fault} {m : Measurement}
      (h : Measured o w engine q evicted es ended (.ok m)) (hrest : Queried o w engine qs fs lost) :
      Queried o w engine (q :: qs) (es ++ fs) lost
  | cut {q : Query} {qs : List Query} {evicted : String → Bool} {es : List Exchange}
      {ended : Option Fault} {f : Fault} (h : Measured o w engine q evicted es ended (.error f)) :
      Queried o w engine (q :: qs) es (some f)

/-- What is asked is in the plan of one of the queries. -/
theorem Queried.call_mem {o : TrialOptions} {w : Workload} {engine : String} {qs : List Query}
    {es : List Exchange} {lost : Option Fault} (h : Queried o w engine qs es lost) {e : Exchange}
    (he : e ∈ es) : ∃ q ∈ qs, ∃ evicted, ∃ p ∈ planOf o w engine q evicted, p.call = e.call := by
  induction h with
  | done => simp at he
  | @next q qs evicted _ _ _ _ _ h hrest ih =>
    rcases List.mem_append.mp he with he | he
    · exact ⟨q,List.mem_cons_self,evicted,h.carried.call_mem he⟩
    · obtain ⟨r,hr,hplan⟩ := ih he
      exact ⟨r,List.mem_cons_of_mem q hr,hplan⟩
  | @cut q qs evicted _ _ _ h => exact ⟨q,List.mem_cons_self,evicted,h.carried.call_mem he⟩

/-- An engine's turn and the fault by which it lost the connection. A turn whose index cannot be
built is over, too. -/
inductive Turn.Taken (o : TrialOptions) (w : Workload) : Turn → Option Fault → Prop
  | unbuilt {engine : String} {build : List Exchange} {f : Fault}
      (hbuild : Carried (buildPlan w engine) build (some f)) :
      Taken o w { engine, build } ((some f).filter Fault.isFatal)
  | unset {engine : String} {build session : List Exchange} {f : Fault}
      (hbuild : Carried (buildPlan w engine) build none)
      (hsession : Carried [.optional (Executor.sessionSql w.parallelism)] session (some f)) :
      Taken o w { engine, build, session } (some f)
  | stopped {engine : String} {build session queries : List Exchange} {f : Fault}
      (hbuild : Carried (buildPlan w engine) build none)
      (hsession : Carried [.optional (Executor.sessionSql w.parallelism)] session none)
      (hqueries : Queried o w engine w.queries queries (some f)) :
      Taken o w { engine, build, session, queries } (some f)
  | through {engine : String} {build session queries tidying : List Exchange} {lost : Option Fault}
      (hbuild : Carried (buildPlan w engine) build none)
      (hsession : Carried [.optional (Executor.sessionSql w.parallelism)] session none)
      (hqueries : Queried o w engine w.queries queries none)
      (htidying : Carried [.optional (dropIndexSql w engine)] tidying lost) :
      Taken o w { engine, build, session, queries, tidying } lost

/-- Both engines take their turns, and what is left is tidied up. -/
inductive TurnsTaken (o : TrialOptions) (w : Workload) :
    List Turn → List Exchange → Option Fault → Prop
  | first {base : Turn} {f : Fault} (hengine : base.engine = o.engines.baseline)
      (hbase : base.Taken o w (some f)) : TurnsTaken o w [base] [] (some f)
  | second {base cand : Turn} {f : Fault} (hengine : base.engine = o.engines.baseline)
      (hbase : base.Taken o w none) (hengine' : cand.engine = o.engines.candidate)
      (hcand : cand.Taken o w (some f)) : TurnsTaken o w [base,cand] [] (some f)
  | through {base cand : Turn} {tidying : List Exchange} {lost : Option Fault}
      (hengine : base.engine = o.engines.baseline) (hbase : base.Taken o w none)
      (hengine' : cand.engine = o.engines.candidate) (hcand : cand.Taken o w none)
      (htidying : Carried (tidyPlan o w) tidying lost) : TurnsTaken o w [base,cand] tidying lost

/-- The exchanges about the data, each engine's turn, the tidying up, and what the execution gives. -/
inductive Course (o : TrialOptions) (w : Workload) :
    List Exchange → List Turn → List Exchange → Except Fault Executor.Report → Prop
  | cut {data : List Exchange} {f : Fault} (hdata : Executor.DataCut o w data f) :
      Course o w data [] [] (.error f)
  | missing {data : List Exchange} {f : Fault} {report : Executor.Report} {elapsed : Binary64}
      (hdata : Executor.DataPhase o w data (.error f))
      (houtcome : report.outcome = outcomeOf w elapsed (.error f)) :
      Course o w data [] [] (.ok report)
  | lost {data : List Exchange} {d : Bool × Option Nat} {turns : List Turn}
      {tidying : List Exchange} {f : Fault} (hdata : Executor.DataPhase o w data (.ok d))
      (hturns : TurnsTaken o w turns tidying (some f)) : Course o w data turns tidying (.error f)
  | measured {data : List Exchange} {d : Bool × Option Nat} {turns : List Turn}
      {tidying : List Exchange} {report : Executor.Report} {elapsed : Binary64}
      (hdata : Executor.DataPhase o w data (.ok d)) (hturns : TurnsTaken o w turns tidying none)
      (houtcome : report.outcome = outcomeOf w elapsed (.ok d)) :
      Course o w data turns tidying (.ok report)

theorem TurnsTaken.complete {o : TrialOptions} {w : Workload} {turns : List Turn}
    {tidying : List Exchange} (h : TurnsTaken o w turns tidying none) :
    ∃ base cand, turns = [base,cand] ∧ base.engine = o.engines.baseline ∧ base.Taken o w none ∧
      cand.engine = o.engines.candidate ∧ cand.Taken o w none ∧
      Carried (tidyPlan o w) tidying none := by
  generalize hlost : none = lost at h
  cases h with
  | first | second => cases hlost
  | through hengine hbase hengine' hcand htidying =>
    subst hlost
    exact ⟨_,_,rfl,hengine,hbase,hengine',hcand,htidying⟩

/-- Where an exchange about a query stands among those of an execution. -/
theorem Turn.exchanges_eq (data tidying : List Exchange) {before after : List Exchange}
    {turns earlier later : List Turn} {t : Turn} {e : Exchange} (hturns : turns = earlier ++ t :: later)
    (hqueries : t.queries = before ++ e :: after) :
    data ++ turns.flatMap Turn.exchanges ++ tidying =
      (data ++ earlier.flatMap Turn.exchanges ++ (t.build ++ t.session ++ before)) ++
        e :: (after ++ t.tidying ++ later.flatMap Turn.exchanges ++ tidying) := by
  simp [hturns,hqueries,exchanges]

/-- Where a turn stands among the turns of an execution. -/
theorem TurnsTaken.turn {o : TrialOptions} {w : Workload} {turns earlier later : List Turn} {t : Turn}
    {tidying : List Exchange} {lost : Option Fault} (h : TurnsTaken o w turns tidying lost)
    (hturns : turns = earlier ++ t :: later) : (∃ lost, t.Taken o w lost) ∧
      (t.engine = o.engines.baseline ∧ earlier = [] ∨ t.engine = o.engines.candidate ∧
        ∃ base : Turn, earlier = [base] ∧ base.engine = o.engines.baseline ∧ base.Taken o w none) := by
  have hpair : ∀ {base cand : Turn}, base.engine = o.engines.baseline → base.Taken o w none →
      cand.engine = o.engines.candidate → (∃ lost, cand.Taken o w lost) →
      [base,cand] = earlier ++ t :: later → (∃ lost, t.Taken o w lost) ∧
        (t.engine = o.engines.baseline ∧ earlier = [] ∨ t.engine = o.engines.candidate ∧
          ∃ base : Turn, earlier = [base] ∧ base.engine = o.engines.baseline ∧
            base.Taken o w none) := by
    intro base cand hbase hbaseTaken hcand hcandTaken hsplit
    match earlier with
    | [] =>
      obtain ⟨rfl,_⟩ := List.cons.inj hsplit
      exact ⟨⟨_,hbaseTaken⟩,.inl ⟨hbase,rfl⟩⟩
    | [head] =>
      simp only [List.singleton_append,List.cons.injEq] at hsplit
      obtain ⟨rfl,rfl,_⟩ := hsplit
      exact ⟨hcandTaken,.inr ⟨hcand,_,rfl,hbase,hbaseTaken⟩⟩
    | head :: next :: rest => simp at hsplit
  cases h with
  | first hengine hbase =>
    cases earlier with
    | nil =>
      obtain ⟨rfl,_⟩ := List.cons.inj hturns
      exact ⟨⟨_,hbase⟩,.inl ⟨hengine,rfl⟩⟩
    | cons head rest => simp at hturns
  | second hengine hbase hengine' hcand => exact hpair hengine hbase hengine' ⟨_,hcand⟩ hturns
  | through hengine hbase hengine' hcand _ => exact hpair hengine hbase hengine' ⟨_,hcand⟩ hturns

namespace Executor

variable {σ : Type}

theorem ensures_runQueries (o : TrialOptions) (w : Workload) (engine : String)
    (index : IndexFigures) :
    (runQueries o w engine index : Session σ (List Measurement)).Ensures fun es r =>
      Queried o w engine w.queries es (faultOf r) := by
  unfold runQueries
  induction w.queries with
  | nil => exact Session.Ensures.pure .done
  | cons q qs ih =>
    have hone : (do
        let m ← runQuery o w engine q
        return { m with index := some index } : Session σ Measurement).Ensures fun es r =>
          ∃ evicted ended r', Measured o w engine q evicted es ended r' ∧ faultOf r' = faultOf r := by
      refine Session.Ensures.bind (ensures_runQuery o w engine q) ?_ ?_
      · rintro es f ⟨evicted,ended,h⟩
        exact ⟨evicted,ended,_,h,rfl⟩
      · rintro es m ⟨evicted,ended,h⟩
        refine Session.Ensures.pure ⟨evicted,ended,.ok m,?_,rfl⟩
        rwa [List.append_nil]
    refine Session.Ensures.bind hone ?_ ?_
    · rintro es f ⟨evicted,ended,r',h,hr'⟩
      cases r' with
      | ok m => cases hr'
      | error g =>
        cases hr'
        exact .cut h
    · rintro es m ⟨evicted,ended,r',h,hr'⟩
      cases r' with
      | error g => cases hr'
      | ok m' =>
        refine Session.Ensures.bind ih (fun fs f hfs => .next h hfs) fun fs ms hfs => ?_
        exact Session.Ensures.pure (by simpa using Queried.next h hfs)

theorem ensures_runEngine (o : TrialOptions) (w : Workload) (engine : String) :
    (runEngine o w engine : Session σ (List Measurement)).Ensures fun es r =>
      ∃ t : Turn, t.engine = engine ∧ es = t.exchanges ∧ t.Taken o w (faultOf r) := by
  have hunbuilt : ∀ {build f g}, Carried (buildPlan w engine) build (some f) →
      f.asIndexBuild engine = g → Turn.Taken o w { engine, build } ((some g).filter Fault.isFatal) := by
    rintro build f g hbuild rfl
    have h := Turn.Taken.unbuilt (o := o) hbuild
    cases hf : f.isFatal with
    | true => rwa [Fault.asIndexBuild_of_isFatal engine hf]
    | false => simpa [Option.filter_some,hf] using h
  refine Session.Ensures.bind
    ((followsWorded_buildIndex w engine).and (yields_buildIndex w engine)).handed ?_ ?_
  · rintro build f ⟨⟨⟨worded,hbuild,hf⟩,_⟩,hfatal⟩
    cases worded with
    | ok index => cases hf
    | error g =>
      have hg : f = g.asIndexBuild engine := Except.error.inj hf
      refine ⟨{ engine, build },rfl,by simp [Turn.exchanges],?_⟩
      simpa [Option.filter_some,hfatal] using hunbuilt hbuild hg.symm
  · rintro build handed ⟨⟨⟨worded,hbuild,rfl⟩,hbuilt⟩,hkept⟩
    cases worded with
    | error g =>
      refine Session.Ensures.pure ⟨{ engine, build },rfl,by simp [Turn.exchanges],?_⟩
      simpa [Option.filter_some,hkept _ rfl] using hunbuilt hbuild rfl
    | ok index =>
      have hname : index.name = indexName w.table engine := by
        obtain ⟨_,_,_,_,hindex⟩ := hbuilt index rfl
        rw [hindex]
      refine Session.Ensures.bind (follows_housekeep _) ?_ ?_
      · intro session f hsession
        exact ⟨{ engine, build, session },rfl,by simp [Turn.exchanges],.unset hbuild hsession⟩
      intro session _ hsession
      refine Session.Ensures.bind (ensures_runQueries o w engine index) ?_ ?_
      · intro queries f hqueries
        exact ⟨{ engine, build, session, queries },rfl,by simp [Turn.exchanges],
          .stopped hbuild hsession hqueries⟩
      intro queries ms hqueries
      refine Session.Ensures.bind (follows_housekeep _) ?_ ?_
      · intro tidying f htidying
        rw [hname] at htidying
        exact ⟨{ engine, build, session, queries, tidying },rfl,by simp [Turn.exchanges],
          .through hbuild hsession hqueries htidying⟩
      intro tidying _ htidying
      rw [hname] at htidying
      exact Session.Ensures.pure ⟨{ engine, build, session, queries, tidying },rfl,
        by simp [Turn.exchanges],.through hbuild hsession hqueries htidying⟩

theorem follows_tidying (o : TrialOptions) (w : Workload) (ms : List Measurement) :
    (do
      housekeep resetSql
      if !o.reuseData then housekeep s!"DROP TABLE IF EXISTS {w.table} CASCADE;"
      return ms : Session σ (List Measurement)).Follows (tidyPlan o w) := by
  change Session.Follows _ ([.optional resetSql] ++ _)
  refine (follows_housekeep resetSql).bind fun _ => ?_
  cases o.reuseData with
  | true => exact Session.follows_pure ms
  | false => exact (follows_housekeep _).bind_nil fun _ => Session.follows_pure ms

theorem ensures_runEngines (o : TrialOptions) (w : Workload) :
    (runEngines o w : Session σ (List Measurement)).Ensures fun es r =>
      ∃ turns tidying, es = turns.flatMap Turn.exchanges ++ tidying ∧
        TurnsTaken o w turns tidying (faultOf r) := by
  refine Session.Ensures.bind (ensures_runEngine o w o.engines.baseline) ?_ ?_
  · rintro _ f ⟨base,hbase,rfl,htaken⟩
    exact ⟨[base],[],by simp,.first hbase htaken⟩
  rintro _ bs ⟨base,hbase,rfl,htaken⟩
  refine Session.Ensures.bind (ensures_runEngine o w o.engines.candidate) ?_ ?_
  · rintro _ f ⟨cand,hcand,rfl,htaken'⟩
    exact ⟨[base,cand],[],by simp,.second hbase htaken hcand htaken'⟩
  rintro _ cs ⟨cand,hcand,rfl,htaken'⟩
  refine (follows_tidying o w (bs ++ cs)).mono fun tidying r htidying => ?_
  exact ⟨[base,cand],tidying,by simp,.through hbase htaken hcand htaken' htidying⟩

/-- Every execution takes this course, whatever it is answered. -/
theorem ensures_execute (o : TrialOptions) (w : Workload) :
    (execute o w : Session σ Report).Ensures fun es r =>
      ∃ data turns tidying, es = data ++ turns.flatMap Turn.exchanges ++ tidying ∧
        Course o w data turns tidying r := by
  refine Session.Ensures.readClock_bind fun start => ?_
  refine Session.Ensures.bind (ensures_ensureData o w).handed ?_ ?_
  · rintro data f ⟨hdata | ⟨g,hg,hcut⟩,hf⟩
    · cases hdata with
      | failed _ _ hkept => simp [hkept] at hf
    · cases hg
      exact ⟨data,[],[],by simp,.cut hcut⟩
  rintro data handed ⟨hdata,hkept⟩
  cases handed with
  | error f =>
    have hdata' : DataPhase o w data (.error f) := by
      rcases hdata with hdata | ⟨g,hg,hcut⟩
      · exact hdata
      · cases hg
        simpa [hkept f rfl] using hcut.isFatal
    refine Session.Ensures.pure_bind (Session.Ensures.readClock_bind fun stop => ?_)
    exact Session.Ensures.pure ⟨data,[],[],by simp,.missing hdata' rfl⟩
  | ok d =>
    obtain ⟨generated,rowCount⟩ := d
    have hdata' : DataPhase o w data (.ok (generated,rowCount)) := by simpa using hdata
    refine Session.Ensures.bind (ensures_runEngines o w) ?_ ?_
    · rintro _ f ⟨turns,tidying,rfl,hturns⟩
      exact ⟨data,turns,tidying,by simp,.lost hdata' hturns⟩
    · rintro _ ms ⟨turns,tidying,rfl,hturns⟩
      refine Session.Ensures.pure_bind (Session.Ensures.readClock_bind fun stop => ?_)
      exact Session.Ensures.pure ⟨data,turns,tidying,by simp,.measured hdata' hturns rfl⟩

end Executor

end IndexTrial
