import IndexTrial.Proofs.Store.Serving
import IndexTrial.Proofs.Trial.Course
import IndexTrial.Proofs.Trial.Shape

/-!
What the phases of an execution make of a store that fails nothing that can be done: the look for
rows tells the truth, the loading leaves a filled table, and an engine's turn leaves the store without
the engine's index.
-/

namespace IndexTrial

-- What a statement is read as is known from its lemmas; the reader itself is never run here.
attribute [local irreducible] Statement.read

namespace Store

@[simp] theorem rows?_dropIndex (s : Store) (name table : String) :
    (s.dropIndex name).rows? table = s.rows? table := rfl

@[simp] theorem rows?_createIndex (s : Store) (i : StoredIndex) (table : String) :
    (s.createIndex i).rows? table = s.rows? table := rfl

theorem lookup_filter_ne {α : Type} {tables : List (String × α)} {table other : String}
    (h : other ≠ table) : (tables.filter (·.1 != table)).lookup other = tables.lookup other := by
  induction tables with
  | nil => rfl
  | cons p tables ih =>
    obtain ⟨name,rows⟩ := p
    by_cases hname : name = table
    · subst hname
      have hother : (other == name) = false := by simpa using h
      simp [List.lookup_cons,hother,ih]
    · simp [List.lookup_cons,hname,ih]

theorem rows?_dropTable_ne {table other : String} (s : Store) (h : other ≠ table) :
    (s.dropTable table).rows? other = s.rows? other :=
  lookup_filter_ne h

theorem rows?_createTable_ne {table other : String} (s : Store) (rows : Nat) (h : other ≠ table) :
    (s.createTable table rows).rows? other = s.rows? other := by
  have hother : (other == table) = false := by simpa using h
  simp [createTable,rows?,List.lookup_append,lookup_filter_ne h,List.lookup_cons,hother]

/-- An index that was made and dropped again leaves nothing. -/
theorem dropIndex_createIndex (s : Store) (i : StoredIndex) :
    ((s.dropIndex i.name).createIndex i).dropIndex i.name = s.dropIndex i.name := by
  simp [dropIndex,createIndex]

section

variable {s : Store} {table other : String} {rows n : Nat}

theorem rows?_dropTable_eq_some :
    (s.dropTable table).rows? other = some n ↔ other ≠ table ∧ s.rows? other = some n := by
  by_cases hother : other = table
  · simp [hother]
  · simp [s.rows?_dropTable_ne hother,hother]

theorem rows?_createTable_eq_some : (s.createTable table rows).rows? other = some n ↔
    other = table ∧ rows = n ∨ other ≠ table ∧ s.rows? other = some n := by
  by_cases hother : other = table
  · simp [hother]
  · simp [s.rows?_createTable_ne rows hother,hother]

end

/-- No table has more rows than can be counted. -/
def Countable (s : Store) : Prop := ∀ table rows, s.rows? table = some rows → rows < 2 ^ 64

theorem Countable.dropTable {s : Store} (h : s.Countable) (table : String) :
    (s.dropTable table).Countable :=
  fun other n hn => h other n (rows?_dropTable_eq_some.mp hn).2

theorem Countable.createTable {s : Store} (h : s.Countable) {rows : Nat} (hrows : rows < 2 ^ 64)
    (table : String) : (s.createTable table rows).Countable := by
  intro other n hn
  rcases rows?_createTable_eq_some.mp hn with ⟨_,rfl⟩ | ⟨_,hn⟩
  · exact hrows
  · exact h other n hn

/-- Every table has rows that can be counted, and every index is on a table. -/
structure Grounded (s : Store) : Prop where
  rows : ∀ table n, s.rows? table = some n → 0 < n ∧ n < 2 ^ 64
  indexes : ∀ i ∈ s.indexes, ∃ n, s.rows? i.table = some n

namespace Grounded

variable {s : Store}

theorem empty : Grounded {} := ⟨by simp [rows?],by simp⟩

theorem countable (h : s.Grounded) : s.Countable := fun table n hn => (h.rows table n hn).2

theorem dropTable (h : s.Grounded) (table : String) : (s.dropTable table).Grounded where
  rows other n hn := h.rows other n (rows?_dropTable_eq_some.mp hn).2
  indexes i hi := by
    obtain ⟨hi,hne⟩ := List.mem_filter.mp hi
    obtain ⟨n,hn⟩ := h.indexes i hi
    exact ⟨n,rows?_dropTable_eq_some.mpr ⟨by simpa using hne,hn⟩⟩

theorem createTable (h : s.Grounded) {rows : Nat} (hrows : 0 < rows) (hcount : rows < 2 ^ 64)
    (table : String) : (s.createTable table rows).Grounded where
  rows other n hn := by
    rcases rows?_createTable_eq_some.mp hn with ⟨_,rfl⟩ | ⟨_,hn⟩
    · exact ⟨hrows,hcount⟩
    · exact h.rows other n hn
  indexes i hi := by
    obtain ⟨n,hn⟩ := h.indexes i hi
    by_cases hsame : i.table = table
    · exact ⟨rows,rows?_createTable_eq_some.mpr (.inl ⟨hsame,rfl⟩)⟩
    · exact ⟨n,rows?_createTable_eq_some.mpr (.inr ⟨hsame,hn⟩)⟩

theorem dropIndex (h : s.Grounded) (name : String) : (s.dropIndex name).Grounded where
  rows := h.rows
  indexes i hi := h.indexes i (List.mem_filter.mp hi).1

theorem createIndex (h : s.Grounded) {i : StoredIndex} (hi : (s.rows? i.table).isSome = true) :
    (s.createIndex i).Grounded where
  rows := h.rows
  indexes j hj := by
    rcases List.mem_append.mp hj with hj | hj
    · exact h.indexes j (List.mem_filter.mp hj).1
    · rw [List.mem_singleton.mp hj]
      exact Option.isSome_iff_exists.mp hi

end Grounded

end Store

open Store in
/-- The look for rows changes nothing and finds what is there. -/
theorem RowCount.truth {table : String} {es : List Exchange} {r : Except Fault (Option Nat)}
    {s t : Store} (h : RowCount table es r) (hrun : Run never s es t) (htable : IsWord table)
    (hs : s.Countable) : t = s ∧ r.toOption.join = s.rows? table := by
  refine ⟨hrun.of_isQuiet h.isQuiet,?_⟩
  have hlook := Statement.read_hasRelation htable
  have hread := Statement.read_countRows htable
  have hquiet : ∀ reply : Except Fault Execution,
      (Exchange.mk (.execute s!"SELECT to_regclass('{table}') IS NOT NULL;") reply).call.isQuiet =
        true := by
    simp [hlook,Statement.isQuiet]
  cases h with
  | unknown f =>
    obtain ⟨x,hx⟩ := hrun.step.executed hlook ⟨s,rfl⟩
    cases hx
  | absent x hx =>
    obtain ⟨rows,_,_,_,htells⟩ := hrun.step.effect hlook
    have hscalar := htells.relation table rfl
    cases hthere : s.hasRelation table with
    | true => simp [hscalar,hthere] at hx
    | false =>
      simp only [hasRelation,Bool.or_eq_false_iff,Option.isSome_eq_false_iff,
        Option.isNone_iff_eq_none] at hthere
      exact hthere.1.symm
  | uncounted x f hx =>
    cases hrun with
    | cons hfirst hsecond =>
      obtain rfl := hfirst.of_isQuiet (hquiet _)
      cases hrows : Store.rows? _ table with
      | none => rfl
      | some rows =>
        obtain ⟨y,hy⟩ := hsecond.step.executed hread ⟨_,by simp [apply,hrows]; rfl⟩
        cases hy
  | counted x y hx =>
    cases hrun with
    | cons hfirst hsecond =>
      obtain rfl := hfirst.of_isQuiet (hquiet _)
      obtain ⟨rows,_,_,happly,htells⟩ := hsecond.step.effect hread
      cases hrows : Store.rows? _ table with
      | none => simp [apply,hrows] at happly
      | some n =>
        have hscalar : y.scalar = some (toString n) := by simpa [hrows] using htells.count table rfl
        rw [hscalar,countOf_toString (hs table n hrows)]
        rfl

/-! ### Loading -/

theorem LoadScript.Plays.carried {describe : Fault → Fault} {sqls : List String}
    {es : List Exchange} {outcome : Except Fault Unit}
    (h : (ofStatements describe sqls).Plays es outcome) :
    ∃ ended, Carried (sqls.map .required) es ended ∧
      outcome = match ended with
        | none => .ok ()
        | some f => .error (describe f) := by
  induction sqls generalizing es with
  | nil =>
    cases h
    exact ⟨none,.done,rfl⟩
  | cons sql sqls ih =>
    cases h with
    | @run _ _ reply es _ h =>
      cases reply with
      | ok x =>
        obtain ⟨ended,hcarried,houtcome⟩ := ih h
        exact ⟨ended,.next rfl (ending_of_ok rfl) hcarried,houtcome⟩
      | error f =>
        cases h
        refine ⟨some f,.cut rfl ?_,rfl⟩
        rw [ending_of_required (by simp [PlannedCall.required])]
        rfl

namespace Store

variable {excused : Exchange → Prop} {s t : Store} {es : List Exchange}

/-- What the first statements of a loading make of a store; the last two change nothing. -/
def LoadedUpTo (s : Store) (table : String) (t : Store) : Nat → Prop
  | 0 => t = s
  | 1 => t = s.dropTable table
  | _ + 2 => ∃ rows, 0 < rows ∧ rows < 2 ^ 64 ∧ t = (s.dropTable table).createTable table rows

theorem Run.load {table select : String} {k : Nat} (hrun : Run excused s es t)
    (h : Carried (((PatternWorkload.loadStatements table select).take k).map .required) es none)
    (htable : IsWord table) : s.LoadedUpTo table t k := by
  have hdropped : ∀ {x u}, Step excused s
      ⟨.execute s!"DROP TABLE IF EXISTS {table} CASCADE;",.ok x⟩ u → u = s.dropTable table := by
    intro x u hstep
    obtain ⟨rows,_,_,happly,_⟩ := hstep.effect (Statement.read_dropTable htable)
    exact (Except.ok.inj happly).symm
  match k with
  | 0 =>
    cases h
    exact hrun.eq_of_nil
  | 1 =>
    obtain ⟨x,rest,rfl,hrest⟩ := h.required_ok
    cases hrest
    exact hdropped hrun.step
  | k + 2 =>
    obtain ⟨x,rest,rfl,hrest⟩ := h.required_ok
    obtain ⟨y,settling,rfl,hsettling⟩ := hrest.required_ok
    cases hrun with
    | cons hdrop hrun =>
      obtain rfl := hdropped hdrop
      cases hrun with
      | cons hcreate hrun =>
        obtain ⟨rows,hrows,hcount,happly,_⟩ :=
          hcreate.effect (Statement.read_createTable htable select)
        obtain rfl := Except.ok.inj happly
        refine ⟨rows,hrows,hcount,hrun.of_isQuiet fun e he => ?_⟩
        obtain ⟨p,hp,hcall⟩ := hsettling.call_mem he
        obtain ⟨sql,hsql,rfl⟩ := List.mem_map.mp hp
        have hsql := List.mem_of_mem_take hsql
        simp only [List.mem_cons,List.not_mem_nil,or_false] at hsql
        rw [← hcall]
        change (Statement.read sql).isQuiet = true
        rcases hsql with rfl | rfl
        · rw [read_alterTable]
          rfl
        · rw [read_vacuum]
          rfl

end Store

/-! ### An engine's turn -/

/-- The index of an engine on a workload's table. -/
def Workload.indexOf (w : Workload) (engine : String) : StoredIndex :=
  ⟨indexName w.table engine,w.table,engine⟩

theorem build_of_done {w : Workload} {engine : String} {es : List Exchange}
    (h : Carried (buildPlan w engine) es none) :
    ∃ x y reply, es = [⟨.execute (dropIndexSql w engine),.ok x⟩,
      ⟨.execute (w.createIndexSql engine),.ok y⟩,⟨.execute (indexSizeSql w engine),reply⟩] := by
  obtain ⟨x,rest,rfl,hrest⟩ := h.required_ok
  obtain ⟨y,size,rfl,hsize⟩ := hrest.required_ok
  obtain ⟨reply,rfl⟩ := hsize.single
  exact ⟨x,y,reply,rfl⟩

namespace Store

variable {excused : Exchange → Prop} {s t : Store} {es : List Exchange} {o : TrialOptions}
  {w : Workload} {engine : String}

theorem Step.dropIndex {x : Execution} (h : Step excused s ⟨.execute (dropIndexSql w engine),.ok x⟩ t)
    (hname : IsWord (indexName w.table engine)) : t = s.dropIndex (indexName w.table engine) := by
  obtain ⟨rows,_,_,happly,_⟩ := h.effect (Statement.read_dropIndex hname)
  exact (Except.ok.inj happly).symm

theorem Run.build (hrun : Run excused s es t) (h : Carried (buildPlan w engine) es none)
    (htable : IsWord w.table) (hengine : IsWord engine) :
    t = (s.dropIndex (indexName w.table engine)).createIndex (w.indexOf engine) := by
  obtain ⟨x,y,reply,rfl⟩ := build_of_done h
  cases hrun with
  | cons hdrop hrun =>
    obtain rfl := hdrop.dropIndex (Statement.isWord_indexName htable hengine)
    cases hrun with
    | cons hcreate hrun =>
      obtain rfl := hrun.step.of_isQuiet (isQuiet_indexSizeSql w engine)
      obtain ⟨rows,_,_,happly,_⟩ := hcreate.effect (Statement.read_createIndex htable hengine)
      simp only [apply] at happly
      split at happly
      · exact (Except.ok.inj happly).symm
      · cases happly

/-- A plan that nothing but an excused failure could cut was not cut by a lost connection. -/
theorem Run.isFatal_of_cut {ps : List PlannedCall} {f : Fault} (hrun : Run never s es t)
    (h : Carried ps es (some f)) : f.isFatal = false := by
  obtain ⟨before,e,rfl,he⟩ := h.last
  have hkept := hrun.isLost e (by simp)
  rw [isLost_eq,he] at hkept
  exact hkept

/-- On a table that is there an index can be built. -/
theorem Run.not_unbuilt {f : Fault} (hrun : Run never s es t)
    (h : Carried (buildPlan w engine) es (some f)) (htable : IsWord w.table)
    (hengine : IsWord engine) (hthere : (s.rows? w.table).isSome = true) : False := by
  have hdrop := Statement.read_dropIndex (Statement.isWord_indexName htable hengine)
  rcases build_of_fault h (hrun.isFatal_of_cut h) with rfl | ⟨x,rfl⟩
  · obtain ⟨x,hx⟩ := hrun.step.executed hdrop ⟨_,rfl⟩
    cases hx
  · cases hrun with
    | cons hfirst hrun =>
      obtain rfl := hfirst.dropIndex (Statement.isWord_indexName htable hengine)
      obtain ⟨y,hy⟩ := hrun.step.executed (Statement.read_createIndex htable hengine)
        ⟨_,by simp [apply,hthere]; rfl⟩
      cases hy

end Store

theorem Queried.isQuiet {o : TrialOptions} {w : Workload} {engine : String} {qs : List Query}
    {es : List Exchange} {lost : Option Fault} (h : Queried o w engine qs es lost)
    (hqs : ∀ q ∈ qs, startsWithText q.sql "SELECT" = true) : ∀ e ∈ es, e.call.isQuiet = true := by
  intro e he
  obtain ⟨q,hq,evicted,p,hp,hcall⟩ := h.call_mem he
  rw [← hcall]
  have hsql : (Call.execute q.sql).isQuiet = true := Statement.isQuiet_read_select (hqs q hq)
  exact isQuiet_planOf hsql o w engine evicted p hp

theorem Queried.head {o : TrialOptions} {w : Workload} {engine : String} {q : Query} {qs : List Query}
    {es : List Exchange} (h : Queried o w engine (q :: qs) es none) :
    ∃ e after, es = e :: after ∧ (q.mode = .hot → e.call = .execute q.sql) := by
  cases h with
  | @next _ _ evicted es fs ended _ _ h hrest =>
    have hcarried := h.carried
    obtain ⟨p,ps,hplan,hp⟩ : ∃ p ps, planOf o w engine q evicted = p :: ps ∧
        (q.mode = .hot → p.call = .execute q.sql) := by
      cases hm : q.mode <;> simp [planOf,queryPlan,preparationPlan,coldPlan,hm,PlannedCall.required]
    rw [hplan] at hcarried
    cases hcarried with
    | next hcall _ _ => exact ⟨_,_,rfl,fun hm => hcall.trans (hp hm)⟩
    | cut hcall _ => exact ⟨_,_,rfl,fun hm => hcall.trans (hp hm)⟩

namespace Turn

open Store

variable {excused : Exchange → Prop} {s u : Store} {o : TrialOptions} {w : Workload} {t : Turn}

/-- With the index built and the session set, queries that only read change nothing more. -/
theorem underway {engine : String} {build session before : List Exchange} {ended : Option Fault}
    (hrun : Run excused s (build ++ session ++ before) u)
    (hbuild : Carried (buildPlan w engine) build none)
    (hsession : Carried [.optional (Executor.sessionSql w.parallelism)] session ended)
    (hbefore : ∀ e ∈ before, e.call.isQuiet = true) (htable : IsWord w.table)
    (hengine : IsWord engine) :
    u = (s.dropIndex (indexName w.table engine)).createIndex (w.indexOf engine) := by
  have hset : (Call.execute (Executor.sessionSql w.parallelism)).isQuiet = true :=
    Executor.isQuiet_sessionSql w.parallelism
  obtain ⟨v,hrun,hqueries⟩ := hrun.split
  obtain ⟨v',hrun,hset'⟩ := hrun.split
  obtain rfl := hqueries.of_isQuiet hbefore
  obtain ⟨reply,rfl⟩ := hsession.single
  obtain rfl := hset'.step.of_isQuiet hset
  exact hrun.build hbuild htable hengine

/-- While an engine's queries run, its index is the newest one, and nothing else has changed. -/
theorem Taken.during {lost : Option Fault} {before after : List Exchange} (h : t.Taken o w lost)
    (hqueries : t.queries = before ++ after) (hafter : after ≠ [])
    (hrun : Run excused s (t.build ++ t.session ++ before) u) (htable : IsWord w.table)
    (hengine : IsWord t.engine) (hselect : ∀ q ∈ w.queries, startsWithText q.sql "SELECT" = true) :
    u = (s.dropIndex (indexName w.table t.engine)).createIndex (w.indexOf t.engine) := by
  have hquiet : ∀ {queries lost}, Queried o w t.engine w.queries queries lost →
      queries = before ++ after → ∀ e ∈ before, e.call.isQuiet = true := by
    rintro queries lost hqueried rfl e he
    exact hqueried.isQuiet hselect e (by simp [he])
  cases h with
  | unbuilt => simp_all
  | unset => simp_all
  | stopped hbuild hsession hqueried =>
    exact underway hrun hbuild hsession (hquiet hqueried hqueries) htable hengine
  | through hbuild hsession hqueried _ =>
    exact underway hrun hbuild hsession (hquiet hqueried hqueries) htable hengine

/-- A turn on a table that is there goes through. -/
theorem Taken.goesThrough (h : t.Taken o w none) (hrun : Run never s t.exchanges u)
    (htable : IsWord w.table) (hengine : IsWord t.engine)
    (hthere : (s.rows? w.table).isSome = true) : Carried (buildPlan w t.engine) t.build none ∧
      Carried [.optional (Executor.sessionSql w.parallelism)] t.session none ∧
      Queried o w t.engine w.queries t.queries none ∧
      Carried [.optional (dropIndexSql w t.engine)] t.tidying none := by
  generalize hlost : none = lost at h
  cases h with
  | unbuilt hbuild =>
    simp only [exchanges,List.append_nil] at hrun
    exact (hrun.not_unbuilt hbuild htable hengine hthere).elim
  | unset => cases hlost
  | stopped => cases hlost
  | through hbuild hsession hqueried htidying =>
    subst hlost
    exact ⟨hbuild,hsession,hqueried,htidying⟩

/-- A whole turn on a table that is there leaves the store without the engine's index. -/
theorem Taken.effect (h : t.Taken o w none) (hrun : Run never s t.exchanges u)
    (htable : IsWord w.table) (hengine : IsWord t.engine)
    (hselect : ∀ q ∈ w.queries, startsWithText q.sql "SELECT" = true)
    (hthere : (s.rows? w.table).isSome = true) :
    u = s.dropIndex (indexName w.table t.engine) := by
  obtain ⟨hbuild,hsession,hqueried,htidying⟩ := h.goesThrough hrun htable hengine hthere
  rw [exchanges] at hrun
  obtain ⟨v,hrun,hdrop⟩ := hrun.split
  obtain rfl := underway hrun hbuild hsession (hqueried.isQuiet hselect) htable hengine
  obtain ⟨reply,htidying⟩ := htidying.single
  rw [htidying] at hdrop
  obtain ⟨x,rfl⟩ := hdrop.step.executed
    (Statement.read_dropIndex (Statement.isWord_indexName htable hengine)) ⟨_,rfl⟩
  rw [hdrop.step.dropIndex (Statement.isWord_indexName htable hengine)]
  exact dropIndex_createIndex s (w.indexOf t.engine)

end Turn

end IndexTrial
