import IndexTrial.Proofs.Store.Indexes
import IndexTrial.Proofs.Store.LostOnce
import IndexTrial.Proofs.Store.Rehearsing

/-!
The index that an engine is measured with. Executions may lose their connection at any call, and the
store keeps what was done until then. If it is the candidate's index that is left, the next execution
measures the baseline with both, unless it loads the table again.
-/

namespace IndexTrial

attribute [local irreducible] Statement.read

/-! ### During one execution -/

/-- The client's state when it is asked `e` in the course of these exchanges. -/
def Client.AskedAt {σ : Type} (c : Client σ) (s : σ) (es before : List Exchange) (e : Exchange)
    (u : σ) : Prop :=
  ∃ after t, es = before ++ e :: after ∧ c.Answers s before u ∧ c.Answers u (e :: after) t

/-- Up to any exchange, a client that fails only by losing its connection fails nothing. -/
theorem Client.Serves.until {σ : Type} {c : Client σ} {good : σ → Prop} {view : σ → Store}
    (hc : c.Serves (fun e => e.isLost = true) good view) {s t : σ} {before after : List Exchange}
    {e : Exchange} {lost : Option Fault} (h : c.Answers s (before ++ e :: after) t) (hs : good s)
    (hlost : LossAtEnd (before ++ e :: after) lost) : ∃ u, c.Answers s before u ∧
      c.Answers u (e :: after) t ∧ good u ∧ Store.Run Store.never (view s) before (view u) := by
  obtain ⟨u,hbefore,hafter⟩ := h.split
  obtain ⟨hgood,hrun⟩ := hc.run hbefore hs
  have hkept := hlost.before
  exact ⟨u,hbefore,hafter,hgood,hrun.unexcused fun e he => by simp [hkept e he]⟩

namespace Store

/-- Of the engines' indexes on the table there is this engine's and no other. -/
def IndexedFor (s : Store) (engines : EnginePair) (table engine : String) : Prop :=
  ∀ other ∈ engines.toList, s.HasIndexOn (indexName table other) table ↔ other = engine

/-- The candidate's index was left on a table whose data are reused. -/
def LeavesIndex (s : Store) (o : TrialOptions) (table : String) : Prop :=
  o.reuseData = true ∧ s.HasIndexOn (indexName table o.engines.candidate) table

variable {s u : Store} {o : TrialOptions} {w : PatternWorkload} {d : Bool × Option Nat}

/-- The baseline is measured with its own index, unless the candidate's was left. -/
theorem Supplied.indexedFor_baseline (h : s.Supplied w.table o.reuseData d u) (hs : s.Grounded)
    (hdistinct : o.engines.baseline ≠ o.engines.candidate) :
    ((u.dropIndex (indexName w.table o.engines.baseline)).createIndex
      (w.toWorkload.indexOf o.engines.baseline)).IndexedFor o.engines w.table o.engines.baseline ↔
        ¬ s.LeavesIndex o w.table := by
  have hother : ((u.dropIndex (indexName w.table o.engines.baseline)).createIndex
      (w.toWorkload.indexOf o.engines.baseline)).HasIndexOn
        (indexName w.table o.engines.candidate) w.table ↔ s.LeavesIndex o w.table := by
    rw [hasIndexOn_createIndex,hasIndexOn_dropIndex,h.hasIndexOn_iff hs]
    simp [Workload.indexOf,LeavesIndex,indexName_inj,hdistinct,hdistinct.symm]
  have hown : ((u.dropIndex (indexName w.table o.engines.baseline)).createIndex
      (w.toWorkload.indexOf o.engines.baseline)).HasIndexOn
        (indexName w.table o.engines.baseline) w.table :=
    hasIndexOn_createIndex.mpr (.inl ⟨rfl,rfl⟩)
  simp [IndexedFor,EnginePair.toList,hother,hown,hdistinct.symm]

/-- The candidate is measured with its own index: the baseline's is dropped before. -/
theorem indexedFor_candidate (hdistinct : o.engines.baseline ≠ o.engines.candidate) :
    (((u.dropIndex (indexName w.table o.engines.baseline)).dropIndex
      (indexName w.table o.engines.candidate)).createIndex
        (w.toWorkload.indexOf o.engines.candidate)).IndexedFor o.engines w.table
          o.engines.candidate := by
  simp [IndexedFor,EnginePair.toList,hasIndexOn_createIndex,hasIndexOn_dropIndex,Workload.indexOf,
    indexName_inj,hdistinct,hdistinct.symm]

end Store

open Store in
/-- While an engine's queries run in an execution that has lost no connection yet, its index is the
only one of the two, unless the candidate's was left and the baseline is measured. -/
theorem Course.indexedFor {s u : Store} {o : TrialOptions} {w : PatternWorkload}
    {data tidying before after : List Exchange} {turns earlier later : List Turn} {t : Turn}
    {e : Exchange} {r : Except Fault Executor.Report} (h : Course o w.toWorkload data turns tidying r)
    (hw : w.IsPlain) (hengines : ∀ engine ∈ o.engines.toList, IsWord engine)
    (hdistinct : o.engines.baseline ≠ o.engines.candidate) (hturns : turns = earlier ++ t :: later)
    (hqueries : t.queries = before ++ e :: after) (hs : s.Grounded)
    (hrun : Run never s
      (data ++ earlier.flatMap Turn.exchanges ++ (t.build ++ t.session ++ before)) u) :
    t.engine ∈ o.engines.toList ∧ (u.IndexedFor o.engines w.table t.engine ↔
      ¬ (t.engine = o.engines.baseline ∧ s.LeavesIndex o w.table)) := by
  have hcourse : ∃ d lost, Executor.DataPhase o w.toWorkload data (.ok d) ∧
      TurnsTaken o w.toWorkload turns tidying lost := by
    cases h with
    | cut | missing => simp at hturns
    | lost hdata hturns | measured hdata hturns _ => exact ⟨_,_,hdata,hturns⟩
  obtain ⟨d,lost,hdata,htaken⟩ := hcourse
  obtain ⟨v,hrun,hturn⟩ := hrun.split
  obtain ⟨v',hdataRun,hearlier⟩ := hrun.split
  obtain ⟨d',_,_,_,hsupplied,_⟩ := hdata.supplied hw hdataRun hs.countable
  obtain ⟨n,_,_,hrows⟩ := hsupplied.rows?
  obtain ⟨⟨lost,ht⟩,⟨hengine,rfl⟩ | ⟨hengine,base,rfl,hbase,hbaseTaken⟩⟩ := htaken.turn hturns
  · obtain rfl := hearlier.eq_of_nil
    have hmem : t.engine ∈ o.engines.toList := by simp [hengine,EnginePair.toList]
    have hnow := ht.during hqueries (by simp) hturn hw.table (hengines _ hmem) hw.queries
    rw [hengine] at hnow hmem ⊢
    subst hnow
    exact ⟨hmem,by simpa using hsupplied.indexedFor_baseline hs hdistinct⟩
  · have hmem : t.engine ∈ o.engines.toList := by simp [hengine,EnginePair.toList]
    have hbaseMem : base.engine ∈ o.engines.toList := by simp [hbase,EnginePair.toList]
    rw [List.flatMap_singleton] at hearlier
    obtain rfl := hbaseTaken.effect hearlier hw.table (hengines _ hbaseMem) hw.queries
      (by simp [hrows])
    have hnow := ht.during hqueries (by simp) hturn hw.table (hengines _ hmem) hw.queries
    rw [hbase,hengine] at hnow
    rw [hengine] at hmem ⊢
    subst hnow
    exact ⟨hmem,iff_of_true (indexedFor_candidate hdistinct) fun h => hdistinct h.1.symm⟩

/-! ### Many executions -/

/-- The states that a client gets into by executions with one pair of engines, and the tables on which
the last execution was aborted. -/
inductive Reached {σ : Type} (c : Client σ) (engines : EnginePair) (start : σ) : σ → List String → Prop
  | start : Reached c engines start start []
  | completed {s : σ} {torn : List String} {o : TrialOptions} {w : PatternWorkload}
      {report : Executor.Report} (h : Reached c engines start s torn) (ho : o.engines = engines)
      (hw : w.IsBuilt) (hr : (Executor.execute o w.toWorkload c ⟨s,#[]⟩).1 = .ok report) :
      Reached c engines start (Executor.execute o w.toWorkload c ⟨s,#[]⟩).2.state
        (torn.filter (· ≠ w.table))
  | aborted {s : σ} {torn : List String} {o : TrialOptions} {w : PatternWorkload} {f : Fault}
      (h : Reached c engines start s torn) (ho : o.engines = engines) (hw : w.IsBuilt)
      (hr : (Executor.execute o w.toWorkload c ⟨s,#[]⟩).1 = .error f) :
      Reached c engines start (Executor.execute o w.toWorkload c ⟨s,#[]⟩).2.state (w.table :: torn)

section

variable {σ : Type} {c : Client σ} {good : σ → Prop} {view : σ → Store}

/-- An execution on a client that fails only by losing its connection leaves the indexes on other
tables as they are or without some, and no index of its own if it was not aborted. -/
theorem Executor.execute_leaves (hc : c.Serves (fun e => e.isLost = true) good view)
    {o : TrialOptions} {w : PatternWorkload} (hw : w.IsPlain)
    (hengines : ∀ engine ∈ o.engines.toList, IsWord engine) {s : σ} (hs : good s)
    (hstore : (view s).Grounded) :
    let after := (execute o w.toWorkload c ⟨s,#[]⟩).2.state
    good after ∧ (view after).Grounded ∧
      (∀ name table, table ≠ w.table → (view after).HasIndexOn name table →
        (view s).HasIndexOn name table) ∧
      ∀ report, (execute o w.toWorkload c ⟨s,#[]⟩).1 = .ok report →
        ∀ engine ∈ o.engines.toList, ¬ (view after).HasIndexOn (indexName w.table engine) w.table := by
  intro after
  obtain ⟨es,_,hanswers,⟨⟨data,turns,tidying,rfl,hcourse⟩,hlost⟩,hown⟩ :=
    (((ensures_execute o w.toWorkload).and (resilient_execute o w.forwards_loading)).and
      (ensures_own_table hw hengines)) c ⟨s,#[]⟩
  obtain ⟨hgood,hrun⟩ := hc.run hanswers hs
  refine ⟨hgood,hrun.grounded hstore,fun name table htable => hrun.hasIndexOn fun e he hindexes =>
    htable (hown e he table hindexes),fun report hr engine hengine => ?_⟩
  rw [hr] at hlost hcourse
  have hkept := hlost.not_lost
  have hnever := hrun.unexcused fun e he => by simp [hkept e he]
  obtain ⟨report',_,hserved⟩ := hcourse.served rfl hw hengines hnever hstore.countable
  obtain ⟨u,_,hleft⟩ := hserved.supplied
  rw [hleft]
  exact Store.not_hasIndexOn_cleared hengine

/-- Where the last execution was not aborted, it left no index. -/
theorem Reached.tidy (hc : c.Serves (fun e => e.isLost = true) good view) {engines : EnginePair}
    (hengines : ∀ engine ∈ engines.toList, IsWord engine) {start s : σ} (hstart : good start)
    (hempty : view start = {}) {torn : List String} (h : Reached c engines start s torn) :
    good s ∧ (view s).Grounded ∧ ∀ table, table ∉ torn → ∀ engine ∈ engines.toList,
      ¬ (view s).HasIndexOn (indexName table engine) table := by
  induction h with
  | start =>
    rw [hempty]
    exact ⟨hstart,Store.Grounded.empty,fun _ _ _ _ => by simp [Store.HasIndexOn]⟩
  | @completed s torn o w report _ ho hw hr ih =>
    obtain ⟨hs,hstore,htidy⟩ := ih
    subst ho
    obtain ⟨hgood,hgrounded,hother,hnone⟩ :=
      Executor.execute_leaves hc hw.isPlain hengines hs hstore
    refine ⟨hgood,hgrounded,fun table htable engine hengine hthere => ?_⟩
    by_cases hsame : table = w.table
    · subst hsame
      exact hnone report hr engine hengine hthere
    · have htorn : table ∉ torn := by simpa [hsame] using htable
      exact htidy table htorn engine hengine (hother _ _ hsame hthere)
  | @aborted s torn o w f _ ho hw hr ih =>
    obtain ⟨hs,hstore,htidy⟩ := ih
    subst ho
    obtain ⟨hgood,hgrounded,hother,_⟩ := Executor.execute_leaves hc hw.isPlain hengines hs hstore
    refine ⟨hgood,hgrounded,fun table htable engine hengine hthere => ?_⟩
    obtain ⟨hsame,htorn⟩ := not_or.mp (List.mem_cons.not.mp htable)
    exact htidy table htorn engine hengine (hother _ _ hsame hthere)

/-- If the connection is lost at the first call after the candidate's index was made, the execution is
aborted, and the index is left. -/
theorem Reached.losingOnce (hc : c.Serves Store.never good view) {o : TrialOptions}
    {w : PatternWorkload} (hw : w.IsBuilt) (hengines : ∀ engine ∈ o.engines.toList, IsWord engine)
    (hdistinct : o.engines.baseline ≠ o.engines.candidate) (hqueries : w.queries ≠ []) {s : σ}
    (hs : good s) (hempty : view s = {}) :
    let made := fun store : Store =>
      decide (store.HasIndexOn (indexName w.table o.engines.candidate) w.table)
    ∃ left, Reached (c.losingOnce view made) o.engines (s,true) left [w.table] ∧ left.2 = false ∧
      made (view left.1) = true := by
  intro made
  have hserves := hc.losingOnce made
  have hplain := hw.isPlain
  obtain ⟨_,_,hanswers,⟨data,turns,tidying,rfl,hcourse⟩,hlost⟩ :=
    ((Executor.ensures_execute o w.toWorkload).and
      (Executor.resilient_execute o w.forwards_loading)) (c.losingOnce view made) ⟨(s,true),#[]⟩
  cases hr : (Executor.execute o w.toWorkload (c.losingOnce view made) ⟨(s,true),#[]⟩).1 with
  | error f =>
    refine ⟨_,.aborted .start rfl hw hr,?_⟩
    rw [hr] at hlost
    generalize data ++ turns.flatMap Turn.exchanges ++ tidying = es at hanswers hlost
    cases hlost with
    | @last es call _ hes hf =>
      obtain ⟨u,hbefore,hlast⟩ := hanswers.split
      obtain ⟨hgood,_⟩ := hserves.run hbefore hs
      exact hlast.lost hc hgood (hbefore.not_lost_yet rfl hes) hf
  | ok report =>
    rw [hr] at hlost hcourse
    have hstore : (view s).Grounded := hempty ▸ .empty
    have hkept := hlost.not_lost
    obtain ⟨_,hrun⟩ := hserves.run hanswers hs
    have hnever := hrun.unexcused fun e he => by simp [hkept e he]
    obtain ⟨base,cand,hturns,hbase,hcand,hqueried⟩ :=
      hcourse.queried rfl hplain hengines hnever hstore.countable
    obtain ⟨q,qs,hqs⟩ := List.exists_cons_of_ne_nil hqueries
    have hcandQueried := hqueried cand (by simp [hturns])
    rw [hqs] at hcandQueried
    obtain ⟨e,rest,hfirst,_⟩ := hcandQueried.head
    have hturns' : turns = [base] ++ cand :: [] := hturns
    have hfirst' : cand.queries = [] ++ e :: rest := hfirst
    rw [Turn.exchanges_eq data tidying hturns' hfirst'] at hanswers hlost hkept
    obtain ⟨u,hbefore,hnow,hgood,hrun⟩ := hserves.until hanswers hs hlost
    obtain ⟨hmem,hindexed⟩ :=
      hcourse.indexedFor hplain hengines hdistinct hturns' hfirst' hstore hrun
    rw [hcand] at hmem hindexed
    have hmade : made (view u.1) = true :=
      decide_eq_true ((hindexed.mpr (fun h => hdistinct h.1.symm) _ hmem).mpr rfl)
    have hlostNow := hnow.loses hc hgood (hbefore.not_lost_yet rfl hlost.before) hmade
    exact absurd hlostNow (by simp [hkept e])

/-- Over a store that fails nothing that can be done, the baseline is measured with the first query. -/
theorem Executor.first_measured (hc : c.Serves Store.never good view) {o : TrialOptions}
    {w : PatternWorkload} (hw : w.IsPlain) (hengines : ∀ engine ∈ o.engines.toList, IsWord engine)
    {q : Query} {qs : List Query} (hqueries : w.queries = q :: qs) {s : σ} (hs : good s)
    (hstore : (view s).Countable) {data tidying : List Exchange} {turns : List Turn}
    (hlog : (execute o w.toWorkload c ⟨s,#[]⟩).2.log.toList =
      data ++ turns.flatMap Turn.exchanges ++ tidying)
    (hcourse : Course o w.toWorkload data turns tidying (execute o w.toWorkload c ⟨s,#[]⟩).1) :
    ∃ base rest e after, turns = base :: rest ∧ base.engine = o.engines.baseline ∧
      base.queries = e :: after ∧ (q.mode = .hot → e.call = .execute q.sql) := by
  obtain ⟨es,hlog',hanswers,⟨_,_,_,rfl,_⟩,hlost⟩ :=
    ((ensures_execute o w.toWorkload).and (resilient_execute o w.forwards_loading)) c ⟨s,#[]⟩
  rw [List.nil_append,hlog] at hlog'
  obtain ⟨_,hrun⟩ := hc.run hanswers hs
  have hdone := hlost.eq_none hrun.isLost
  rw [← hlog'] at hrun
  obtain ⟨base,cand,rfl,hbase,_,hqueried⟩ := hcourse.queried hdone hw hengines hrun hstore
  have hbaseQueried := hqueried base (by simp)
  rw [hqueries] at hbaseQueried
  obtain ⟨e,after,hfirst,hcall⟩ := hbaseQueried.head
  exact ⟨base,[cand],e,after,rfl,hbase,hfirst,hcall⟩

/-- Over any executions that may lose their connection at any call: whenever an engine's query is run,
the engine's index is the only one of the two on the table, unless the baseline is measured on data
that are reused with the candidate's index left on them. That takes an execution on the table that
was aborted, and no other since. -/
theorem queries_run_with_own_index (hc : c.Serves (fun e => e.isLost = true) good view)
    {engines : EnginePair} (hengines : ∀ engine ∈ engines.toList, IsWord engine)
    (hdistinct : engines.baseline ≠ engines.candidate) {start s : σ} (hstart : good start)
    (hempty : view start = {}) {torn : List String} (hs : Reached c engines start s torn)
    {o : TrialOptions} (ho : o.engines = engines) {w : PatternWorkload} (hw : w.IsBuilt) :
    let run := Executor.execute o w.toWorkload c ⟨s,#[]⟩
    ((view s).LeavesIndex o w.table → w.table ∈ torn) ∧
    ∃ data turns tidying, run.2.log.toList = data ++ turns.flatMap Turn.exchanges ++ tidying ∧
      Course o w.toWorkload data turns tidying run.1 ∧
      ∀ earlier t later before e after, turns = earlier ++ t :: later →
        t.queries = before ++ e :: after → t.engine ∈ engines.toList ∧
        ∃ u, c.AskedAt s run.2.log.toList
          (data ++ earlier.flatMap Turn.exchanges ++ (t.build ++ t.session ++ before)) e u ∧
        ((view u).IndexedFor engines w.table t.engine ↔
          ¬ (t.engine = engines.baseline ∧ (view s).LeavesIndex o w.table)) := by
  intro run
  subst ho
  obtain ⟨hgood,hstore,htidy⟩ := hs.tidy hc hengines hstart hempty
  obtain ⟨_,hlog,hanswers,⟨data,turns,tidying,rfl,hcourse⟩,hlost⟩ :=
    ((Executor.ensures_execute o w.toWorkload).and
      (Executor.resilient_execute o w.forwards_loading)) c ⟨s,#[]⟩
  rw [List.nil_append] at hlog
  refine ⟨fun hleft => ?_,data,turns,tidying,hlog,hcourse,?_⟩
  · by_contra htorn
    exact htidy w.table htorn o.engines.candidate (by simp [EnginePair.toList]) hleft.2
  · intro earlier t later before e after hturns hqueries
    have hsplit := Turn.exchanges_eq data tidying hturns hqueries
    rw [hsplit] at hanswers hlost
    obtain ⟨u,hbefore,hafter,_,hrun⟩ := hc.until hanswers hgood hlost
    obtain ⟨hmem,hown⟩ :=
      hcourse.indexedFor hw.isPlain hengines hdistinct hturns hqueries hstore hrun
    exact ⟨hmem,u,⟨_,_,hlog.trans hsplit,hbefore,hafter⟩,hown⟩

/-- A dimension table is measured with its data kept, and the connection is lost when the candidate's
index has just been made: with that index there, the next execution measures the baseline. -/
theorem queries_run_with_own_index_dimension :
    let table := PatternWorkload.dimension.table
    let c := Rehearsal.client.losingOnce Rehearsal.store fun store =>
      decide (store.HasIndexOn (indexName table "smol") table)
    ∃ left torn, Reached c ⟨"btree","smol"⟩ ({},true) left torn ∧
      ∃ data base rest tidying before e after u,
        (Executor.execute {} PatternWorkload.dimension.toWorkload c ⟨left,#[]⟩).2.log.toList =
          data ++ (base :: rest).flatMap Turn.exchanges ++ tidying ∧
        base.engine = "btree" ∧ base.queries = e :: after ∧
        (∃ q ∈ PatternWorkload.dimension.queries, e.call = .execute q.sql) ∧
        c.AskedAt left (data ++ (base :: rest).flatMap Turn.exchanges ++ tidying) before e u ∧
        ¬ u.1.store.IndexedFor ⟨"btree","smol"⟩ table "btree" := by
  intro table c
  have hw := PatternWorkload.isBuilt_dimension
  have hhonest : ({} : Rehearsal).Honest Store.never := Rehearsal.honest_of_rules {} (by simp)
  have hserves := Rehearsal.serves Store.never
  have hdistinct : ({} : TrialOptions).engines.baseline ≠ ({} : TrialOptions).engines.candidate := by
    decide
  obtain ⟨q,qs,hqueries,hmode⟩ :
      ∃ q qs, PatternWorkload.dimension.queries = q :: qs ∧ q.mode = .hot := ⟨_,_,rfl,rfl⟩
  obtain ⟨left,hreached,hback,hmade⟩ :=
    Reached.losingOnce hserves hw isWord_engines hdistinct (by simp [hqueries]) hhonest rfl
  obtain ⟨hgood,hgrounded,_⟩ := hreached.tidy (hserves.losingOnce _) isWord_engines hhonest rfl
  obtain ⟨_,data,turns,tidying,hlog,hcourse,hown⟩ := queries_run_with_own_index
    (hserves.losingOnce _) isWord_engines hdistinct hhonest rfl hreached (o := {}) rfl hw
  obtain ⟨base,rest,e,after,rfl,hbase,hfirst,hcall⟩ := Executor.first_measured
    (hserves.losingOnce_back _) hw.isPlain isWord_engines hqueries ⟨hgood,hback⟩
    hgrounded.countable hlog hcourse
  obtain ⟨_,u,hasked,hindexed⟩ := hown [] base rest [] e after rfl hfirst
  rw [hbase] at hindexed
  rw [hlog] at hasked
  exact ⟨left,_,hreached,data,base,rest,tidying,_,e,after,u,hlog,hbase,hfirst,
    ⟨q,by simp [hqueries],hcall hmode⟩,hasked,
    fun h => hindexed.mp h ⟨rfl,rfl,of_decide_eq_true hmade⟩⟩

end

end IndexTrial
