import IndexTrial.Proofs.Store.Execution

/-!
The indexes of a store. An index goes with its table and comes by a call that asks for it, and an
execution asks for indexes on its own table only.
-/

namespace IndexTrial

attribute [local irreducible] Statement.read

namespace Store

/-- There is an index of that name on the table. -/
def HasIndexOn (s : Store) (name table : String) : Prop :=
  ∃ i ∈ s.indexes, i.name = name ∧ i.table = table

instance (s : Store) (name table : String) : Decidable (s.HasIndexOn name table) :=
  inferInstanceAs (Decidable (∃ i ∈ s.indexes, i.name = name ∧ i.table = table))

section

variable {s u : Store} {name table : String}

theorem hasIndexOn_dropIndex {dropped : String} :
    (s.dropIndex dropped).HasIndexOn name table ↔ name ≠ dropped ∧ s.HasIndexOn name table := by
  simp only [HasIndexOn,dropIndex,List.mem_filter,bne_iff_ne]
  constructor
  · rintro ⟨i,⟨hi,hne⟩,rfl,rfl⟩
    exact ⟨hne,i,hi,rfl,rfl⟩
  · rintro ⟨hne,i,hi,rfl,rfl⟩
    exact ⟨i,⟨hi,hne⟩,rfl,rfl⟩

theorem hasIndexOn_createIndex {i : StoredIndex} : (s.createIndex i).HasIndexOn name table ↔
    i.name = name ∧ i.table = table ∨ name ≠ i.name ∧ s.HasIndexOn name table := by
  simp only [HasIndexOn,createIndex,List.mem_append,List.mem_filter,bne_iff_ne,List.mem_singleton]
  constructor
  · rintro ⟨j,⟨hj,hne⟩ | rfl,rfl,rfl⟩
    · exact .inr ⟨hne,j,hj,rfl,rfl⟩
    · exact .inl ⟨rfl,rfl⟩
  · rintro (⟨rfl,rfl⟩ | ⟨hne,j,hj,rfl,rfl⟩)
    · exact ⟨i,.inr rfl,rfl,rfl⟩
    · exact ⟨j,.inl ⟨hj,hne⟩,rfl,rfl⟩

theorem hasIndexOn_dropTable {dropped : String} :
    (s.dropTable dropped).HasIndexOn name table ↔ table ≠ dropped ∧ s.HasIndexOn name table := by
  simp only [HasIndexOn,dropTable,List.mem_filter,bne_iff_ne]
  constructor
  · rintro ⟨i,⟨hi,hne⟩,rfl,rfl⟩
    exact ⟨hne,i,hi,rfl,rfl⟩
  · rintro ⟨hne,i,hi,rfl,rfl⟩
    exact ⟨i,⟨hi,hne⟩,rfl,rfl⟩

theorem indexName_inj {a b : String} : indexName table a = indexName table b ↔ a = b := by
  simp [indexName,toString,← String.toList_inj]

/-- An index on the table is left if its data are reused, and goes with the table if not. -/
theorem Supplied.hasIndexOn_iff {reuse : Bool} {d : Bool × Option Nat}
    (h : s.Supplied table reuse d u) (hs : s.Grounded) :
    u.HasIndexOn name table ↔ reuse = true ∧ s.HasIndexOn name table := by
  cases h with
  | reused hreuse _ _ => simp [hreuse]
  | @loaded rows hmissing _ _ =>
    have hgone : ¬ ((s.dropTable table).createTable table rows).HasIndexOn name table := fun h =>
      (hasIndexOn_dropTable.mp h).1 rfl
    refine iff_of_false hgone ?_
    rintro ⟨hreuse,i,hi,_,rfl⟩
    obtain ⟨n,hn⟩ := hs.indexes i hi
    exact absurd (hmissing hreuse n hn) (Nat.ne_of_gt (hs.rows _ n hn).1)

theorem not_hasIndexOn_cleared {o : TrialOptions} {engine : String}
    (hengine : engine ∈ o.engines.toList) :
    ¬ (s.cleared o table).HasIndexOn (indexName table engine) table := by
  have hswept : ¬ ((s.dropIndex (indexName table o.engines.baseline)).dropIndex
      (indexName table o.engines.candidate)).HasIndexOn (indexName table engine) table := by
    rw [hasIndexOn_dropIndex,hasIndexOn_dropIndex,Ne,Ne,indexName_inj,indexName_inj]
    rw [EnginePair.mem_toList] at hengine
    tauto
  unfold cleared
  split
  · exact hswept
  · rw [hasIndexOn_dropTable]
    exact fun h => h.1 rfl

end

end Store

/-! ### The calls that ask for an index -/

/-- The call asks for an index on the table. -/
def Call.Indexes (table : String) (call : Call) : Prop :=
  ∃ sql name engine, call = .execute sql ∧ Statement.read sql = .createIndex name table engine

namespace Call.Indexes

variable {table : String} {o : TrialOptions} {w : PatternWorkload} {call : Call}

theorem isQuiet_eq (h : call.Indexes table) : call.isQuiet = false := by
  obtain ⟨sql,name,engine,rfl,hread⟩ := h
  rw [isQuiet_execute,hread]
  rfl

theorem read_eq {sql : String} (h : (Call.execute sql).Indexes table) :
    ∃ name engine, Statement.read sql = .createIndex name table engine := by
  obtain ⟨sql',name,engine,hsql,hread⟩ := h
  obtain rfl := Call.execute.inj hsql
  exact ⟨name,engine,hread⟩

theorem table_of_own (h : call.Indexes table) (hown : OwnCall o w.toWorkload call) (hw : w.IsPlain)
    (hengines : ∀ engine ∈ o.engines.toList, IsWord engine) : table = w.table := by
  have hquiet : ∀ {call : Call}, call.Indexes table → call.isQuiet = true → table = w.table := by
    intro call h hcall
    cases h.isQuiet_eq.symm.trans hcall
  have hdrop : ∀ {engine}, engine ∈ o.engines.toList →
      (Call.execute (dropIndexSql w.toWorkload engine)).Indexes table → table = w.table := by
    intro engine hengine h
    obtain ⟨_,_,hread⟩ := h.read_eq
    have hname := Statement.isWord_indexName hw.table (hengines engine hengine)
    cases (Statement.read_dropIndex hname).symm.trans hread
  cases hown with
  | lookUp | count =>
    exact hquiet h (Statement.isQuiet_read_select (by simp [startsWithText,toString]))
  | session => exact hquiet h (Executor.isQuiet_sessionSql _)
  | dropIndex hengine => exact hdrop hengine h
  | query hq hp =>
    have hselect := Statement.isQuiet_read_select (hw.queries _ hq)
    exact hquiet h (isQuiet_planOf hselect _ _ _ _ _ hp)
  | @build engine p hengine hp =>
    simp only [buildPlan,List.mem_cons,List.not_mem_nil,or_false] at hp
    rcases hp with rfl | rfl | rfl
    · exact hdrop hengine h
    · obtain ⟨_,_,hread⟩ := h.read_eq
      rw [Statement.read_createIndex hw.table (hengines engine hengine)] at hread
      cases hread
      rfl
    · exact hquiet h (isQuiet_indexSizeSql w.toWorkload engine)

theorem not_of_load {sql : String} (hw : w.IsPlain) (hsql : sql ∈ w.statements) :
    ¬ (Call.execute sql).Indexes table := by
  intro h
  obtain ⟨_,_,hread⟩ := h.read_eq
  obtain ⟨select,hstatements⟩ := hw.statements
  simp only [hstatements,PatternWorkload.loadStatements,List.mem_cons,List.not_mem_nil,or_false]
    at hsql
  rcases hsql with rfl | rfl | rfl | rfl
  · cases (Statement.read_dropTable hw.table).symm.trans hread
  · cases (Statement.read_createTable hw.table select).symm.trans hread
  · cases (read_alterTable w.table).symm.trans hread
  · cases (read_vacuum w.table).symm.trans hread

theorem not_of_tidy (hw : w.IsPlain) (hcall : call ∈ (tidyPlan o w.toWorkload).map PlannedCall.call) :
    ¬ call.Indexes table := by
  have hreset : ¬ (Call.execute Executor.resetSql).Indexes table := fun h => by
    cases h.isQuiet_eq.symm.trans Executor.isQuiet_resetSql
  have hdrop : ¬ (Call.execute s!"DROP TABLE IF EXISTS {w.table} CASCADE;").Indexes table := fun h => by
    obtain ⟨_,_,hread⟩ := h.read_eq
    cases (Statement.read_dropTable hw.table).symm.trans hread
  cases ho : o.reuseData with
  | true =>
    simp only [tidyPlan,ho,if_true,List.map_cons,List.map_nil,List.mem_singleton] at hcall
    exact hcall ▸ hreset
  | false =>
    simp only [tidyPlan,ho,Bool.false_eq_true,if_false,List.map_cons,List.map_nil,List.mem_cons,
      List.not_mem_nil,or_false] at hcall
    rcases hcall with rfl | rfl
    · exact hreset
    · exact hdrop

end Call.Indexes

/-- An execution asks for indexes on its own table only. -/
theorem Executor.ensures_own_table {σ : Type} {o : TrialOptions} {w : PatternWorkload}
    (hw : w.IsPlain) (hengines : ∀ engine ∈ o.engines.toList, IsWord engine) :
    (execute o w.toWorkload : Session σ Report).Ensures fun es _ =>
      ∀ e ∈ es, ∀ table, e.call.Indexes table → table = w.table := by
  refine (ensures_loadsOnce o w.toWorkload).mono ?_
  rintro _ _ ⟨look,load,rest,rfl,hloads⟩ e he table hindexes
  have hown : e ∈ look ++ rest → table = w.table := fun he =>
    (hloads.own e he).elim (fun h => hindexes.table_of_own h hw hengines)
      fun h => absurd hindexes (Call.Indexes.not_of_tidy hw h)
  have hload : e ∈ load → table = w.table := by
    intro he
    rcases hloads.once with rfl | ⟨outcome,hplays⟩
    · simp at he
    · obtain ⟨ended,hcarried,_⟩ := hplays.carried
      obtain ⟨p,hp,hcall⟩ := hcarried.call_mem he
      obtain ⟨sql,hsql,rfl⟩ := List.mem_map.mp hp
      exact absurd (hcall ▸ hindexes) (Call.Indexes.not_of_load hw hsql)
  simp only [List.mem_append] at he hown
  tauto

namespace Store

variable {excused : Exchange → Prop} {s t : Store} {es : List Exchange} {name table : String}

theorem Grounded.of_apply {rows : Nat} {q : Statement} (hrows : 0 < rows) (hcount : rows < 2 ^ 64)
    (h : s.apply rows q = .ok t) (hs : s.Grounded) : t.Grounded := by
  cases q with
  | createTable table =>
    cases h
    exact hs.createTable hrows hcount table
  | dropTable table =>
    cases h
    exact hs.dropTable table
  | dropIndex index =>
    cases h
    exact hs.dropIndex index
  | createIndex index table engine =>
    simp only [apply] at h
    split at h <;> cases h
    exact hs.createIndex ‹_›
  | countRows table =>
    simp only [apply] at h
    split at h <;> cases h
    exact hs
  | _ =>
    cases h
    exact hs

theorem hasIndexOn_of_apply {rows : Nat} {q : Statement} (h : s.apply rows q = .ok t)
    (hq : ∀ index engine, q ≠ .createIndex index table engine) (ht : t.HasIndexOn name table) :
    s.HasIndexOn name table := by
  cases q with
  | createTable =>
    cases h
    exact ht
  | dropTable =>
    cases h
    exact (hasIndexOn_dropTable.mp ht).2
  | dropIndex =>
    cases h
    exact (hasIndexOn_dropIndex.mp ht).2
  | createIndex index other engine =>
    simp only [apply] at h
    split at h <;> cases h
    rcases hasIndexOn_createIndex.mp ht with ⟨_,rfl⟩ | ⟨_,ht⟩
    · exact absurd rfl (hq index engine)
    · exact ht
  | countRows =>
    simp only [apply] at h
    split at h <;> cases h
    exact ht
  | _ =>
    cases h
    exact ht

theorem Run.grounded (h : Run excused s es t) (hs : s.Grounded) : t.Grounded := by
  induction h with
  | nil => exact hs
  | cons hstep _ ih =>
    refine ih ?_
    cases hstep with
    | done hrows hcount happly _ => exact hs.of_apply hrows hcount happly
    | refused | failed | aside => exact hs

/-- No index comes to a table but by a call that asks for it. -/
theorem Run.hasIndexOn (h : Run excused s es t) (hes : ∀ e ∈ es, ¬ e.call.Indexes table)
    (ht : t.HasIndexOn name table) : s.HasIndexOn name table := by
  induction h with
  | nil => exact ht
  | cons hstep _ ih =>
    obtain ⟨he,hes⟩ := List.forall_mem_cons.mp hes
    have hnow := ih hes ht
    cases hstep with
    | done _ _ happly _ =>
      exact hasIndexOn_of_apply happly (fun index engine hread => he ⟨_,index,engine,rfl,hread⟩) hnow
    | refused | failed | aside => exact hnow

end Store

end IndexTrial
