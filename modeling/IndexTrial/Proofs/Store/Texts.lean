import IndexTrial.Proofs.Trial.OwnCalls
import IndexTrial.Proofs.Workload.Templates

/-!
The texts of a trial: which of an executor's calls leave a database as it is, and what the
workloads that are built from patterns say in their statements and queries.
-/

namespace IndexTrial

-- What a statement is read as is known from its lemmas; the reader itself is run by the kernel only.
attribute [local irreducible] Statement.read

/-- Whether a call leaves all tables and indexes as they are. -/
def Call.isQuiet : Call → Bool
  | .execute sql => (Statement.read sql).isQuiet
  | _ => true

@[simp] theorem isQuiet_execute (sql : String) :
    (Call.execute sql).isQuiet = (Statement.read sql).isQuiet := rfl

/-! ### The executor's own statements -/

theorem isWord_engines : ∀ engine ∈ ({} : TrialOptions).engines.toList, IsWord engine := by
  have hbtree : IsWord "btree" := by decide
  have hsmol : IsWord "smol" := by decide
  simpa [EnginePair.toList] using ⟨hbtree,hsmol⟩

theorem Executor.startsWith_sessionSql (parallelism : Nat) :
    startsWithText (sessionSql parallelism) "SET" = true := by
  unfold sessionSql
  simp [startsWithText,toString]

theorem Executor.startsWith_resetSql : startsWithText resetSql "RESET" = true := by
  unfold resetSql
  simp [startsWithText]

theorem startsWith_dropIndexSql (w : Workload) (engine : String) :
    startsWithText (dropIndexSql w engine) "DROP INDEX" = true := by
  unfold dropIndexSql
  simp [startsWithText,toString]

theorem startsWith_createIndexSql (w : Workload) (engine : String) :
    startsWithText (w.createIndexSql engine) "CREATE INDEX" = true := by
  unfold Workload.createIndexSql
  simp [startsWithText,toString]

theorem startsWith_indexSizeSql (w : Workload) (engine : String) :
    startsWithText (indexSizeSql w engine) "SELECT" = true := by
  unfold indexSizeSql
  simp [startsWithText,toString]

theorem Statement.isQuiet_of_noted (start : String) {sql : String} (hsolid : Solid start)
    (hsql : startsWithText sql start = true) (hstart : start ∈ notedLeads) :
    (read sql).isQuiet = true := by
  rw [read_of_noted start hsolid hsql hstart]
  rfl

theorem Executor.isQuiet_sessionSql (parallelism : Nat) :
    (Statement.read (sessionSql parallelism)).isQuiet = true :=
  Statement.isQuiet_of_noted "SET" ⟨by decide,by decide⟩ (startsWith_sessionSql parallelism)
    (by simp [Statement.notedLeads])

theorem Executor.isQuiet_resetSql : (Statement.read resetSql).isQuiet = true :=
  Statement.isQuiet_of_noted "RESET" ⟨by decide,by decide⟩ startsWith_resetSql
    (by simp [Statement.notedLeads])

theorem isQuiet_indexSizeSql (w : Workload) (engine : String) :
    (Statement.read (indexSizeSql w engine)).isQuiet = true :=
  Statement.isQuiet_read_select (startsWith_indexSizeSql w engine)

/-- Besides the query itself, a query's plan holds little. -/
theorem forall_planOf {P : Call → Prop} {q : Query} (hquery : P (.execute q.sql))
    (hcheckpoint : P (.execute "CHECKPOINT;")) (hdiscard : P (.execute "DISCARD PLANS;"))
    (hevict : ∀ relation, P (.evictRelation relation)) (hfiles : ∀ relation, P (.evictFiles relation))
    (o : TrialOptions) (w : Workload) (engine : String) (evicted : String → Bool) :
    ∀ p ∈ planOf o w engine q evicted, P p.call := by
  have hcold : ∀ a relation, ∀ p ∈ coldPlan o.evictFiles a relation, P p.call := by
    intro a relation p hp
    cases ho : o.evictFiles <;> cases a <;> grind [coldPlan,PlannedCall.optional]
  intro p hp
  rcases List.mem_append.mp hp with hp | hp
  · unfold preparationPlan at hp
    cases hmode : q.mode with
    | hot =>
      simp only [hmode,List.mem_singleton] at hp
      rwa [hp]
    | warm =>
      simp only [hmode,List.mem_cons,List.not_mem_nil,or_false] at hp
      rcases hp with rfl | rfl
      · exact hcheckpoint
      · exact hdiscard
    | cold =>
      simp only [hmode,List.mem_append] at hp
      rcases hp with hp | hp <;> exact hcold _ _ p hp
  · rwa [call_of_mem_samplingPlan hp]

/-- A query that only reads is run without a change to anything. -/
theorem isQuiet_planOf {q : Query} (hq : (Call.execute q.sql).isQuiet = true) (o : TrialOptions)
    (w : Workload) (engine : String) (evicted : String → Bool) :
    ∀ p ∈ planOf o w engine q evicted, p.call.isQuiet = true := by
  have hcheckpoint : (Call.execute "CHECKPOINT;").isQuiet = true :=
    Statement.isQuiet_of_noted "CHECKPOINT" ⟨by decide,by decide⟩ (by simp [startsWithText])
      (by simp [Statement.notedLeads])
  have hdiscard : (Call.execute "DISCARD PLANS;").isQuiet = true :=
    Statement.isQuiet_of_noted "DISCARD" ⟨by decide,by decide⟩ (by simp [startsWithText])
      (by simp [Statement.notedLeads])
  exact forall_planOf (P := fun call => call.isQuiet = true) hq hcheckpoint hdiscard (fun _ => rfl)
    (fun _ => rfl) o w engine evicted

theorem RowCount.isQuiet {table : String} {es : List Exchange} {r : Except Fault (Option Nat)}
    (h : RowCount table es r) : ∀ e ∈ es, e.call.isQuiet = true := by
  have hlook : (Statement.read s!"SELECT to_regclass('{table}') IS NOT NULL;").isQuiet = true :=
    Statement.isQuiet_read_select (by simp [startsWithText,toString])
  have hcount : (Statement.read s!"SELECT count(*) FROM {table};").isQuiet = true :=
    Statement.isQuiet_read_select (by simp [startsWithText,toString])
  cases h with
  | unknown f => simpa using hlook
  | absent x hx => simpa using hlook
  | uncounted x f hx => simpa using ⟨hlook,hcount⟩
  | counted x y hx => simpa using ⟨hlook,hcount⟩

/-! ### The statements of a loading -/

/-- How the statements start that empty, fill and settle a table. -/
def loadingLeads : List String := ["DROP TABLE","CREATE UNLOGGED TABLE","ALTER TABLE","VACUUM"]

/-- Whether a call says what a loading says. -/
def Call.isLoading : Call → Bool
  | .execute sql => loadingLeads.any (startsWithText sql ·)
  | _ => false

theorem isLoading_loadStatements {table select sql : String}
    (h : sql ∈ PatternWorkload.loadStatements table select) : (Call.execute sql).isLoading = true := by
  simp only [PatternWorkload.loadStatements,List.mem_cons,List.not_mem_nil,or_false] at h
  rcases h with rfl | rfl | rfl | rfl <;>
    simp [Call.isLoading,loadingLeads,startsWithText,toString]

theorem read_alterTable (table : String) :
    Statement.read s!"ALTER TABLE {table} SET (autovacuum_enabled = off);" = .other :=
  Statement.read_of_noted "ALTER" ⟨by decide,by decide⟩
    (by simp [startsWithText,toString]) (by simp [Statement.notedLeads])

theorem read_vacuum (table : String) :
    Statement.read s!"VACUUM (FREEZE, ANALYZE) {table};" = .other :=
  Statement.read_of_noted "VACUUM" ⟨by decide,by decide⟩
    (by simp [startsWithText,toString]) (by simp [Statement.notedLeads])

/-- How the statements start that measure. -/
def measuringLeads : List String :=
  ["SELECT","SET","RESET","DROP INDEX","CREATE INDEX","CHECKPOINT","DISCARD"]

theorem measuringLeads_clash : ∀ start ∈ measuringLeads, ∀ lead ∈ loadingLeads,
    Statement.clashes lead start = true := by
  decide +kernel

/-- A text that starts as measuring does is none of a loading. -/
theorem not_isLoading_of_start (start : String) {sql : String} (hsql : startsWithText sql start = true)
    (hstart : start ∈ measuringLeads) : (Call.execute sql).isLoading = false := by
  rw [Call.isLoading,List.any_eq_false]
  intro lead hlead
  rw [Statement.not_startsWithText hsql (measuringLeads_clash start hstart lead hlead)]
  decide

/-- The calls that an executor makes of its own accord say what measuring says, or ask to evict. -/
theorem OwnCall.of_starts {P : Call → Prop} {o : TrialOptions} {w : Workload} {call : Call}
    (h : OwnCall o w call) (hqueries : ∀ q ∈ w.queries, startsWithText q.sql "SELECT" = true)
    (htext : ∀ start ∈ measuringLeads, ∀ sql, startsWithText sql start = true → P (.execute sql))
    (hevict : ∀ relation, P (.evictRelation relation))
    (hfiles : ∀ relation, P (.evictFiles relation)) : P call := by
  have hselect := htext "SELECT" (by simp [measuringLeads])
  have hdrop := fun engine => htext "DROP INDEX" (by simp [measuringLeads]) _
    (startsWith_dropIndexSql w engine)
  cases h with
  | lookUp | count => exact hselect _ (by simp [startsWithText,toString])
  | session =>
    exact htext "SET" (by simp [measuringLeads]) _ (Executor.startsWith_sessionSql _)
  | dropIndex => exact hdrop _
  | @build engine p _ hp =>
    simp only [buildPlan,List.mem_cons,List.not_mem_nil,or_false] at hp
    rcases hp with rfl | rfl | rfl
    · exact hdrop engine
    · exact htext "CREATE INDEX" (by simp [measuringLeads]) _ (startsWith_createIndexSql w engine)
    · exact hselect _ (startsWith_indexSizeSql w engine)
  | @query engine q evicted p hq hp =>
    have hcheckpoint := htext "CHECKPOINT" (by simp [measuringLeads]) "CHECKPOINT;"
      (by simp [startsWithText])
    have hdiscard := htext "DISCARD" (by simp [measuringLeads]) "DISCARD PLANS;"
      (by simp [startsWithText])
    exact forall_planOf (hselect _ (hqueries q hq)) hcheckpoint hdiscard hevict hfiles o w engine
      evicted p hp

/-- What a loading says, the executor does not. -/
theorem OwnCall.not_isLoading {o : TrialOptions} {w : Workload} {call : Call}
    (h : OwnCall o w call) (hqueries : ∀ q ∈ w.queries, startsWithText q.sql "SELECT" = true) :
    call.isLoading = false :=
  h.of_starts (P := fun call => call.isLoading = false) hqueries
    (fun start hstart _ hsql => not_isLoading_of_start start hsql hstart) (fun _ => rfl) fun _ => rfl

theorem not_isLoading_resetSql : (Call.execute Executor.resetSql).isLoading = false :=
  not_isLoading_of_start "RESET" Executor.startsWith_resetSql (by simp [measuringLeads])

/-! ### Built workloads -/

/-- A text goes on starting as it does, if what is replaced starts with none of it. -/
theorem startsWithText_replaceText {text lead pattern : String} (h : startsWithText text lead = true)
    (hpattern : ∀ c ∈ lead.toList, pattern.toList.head? ≠ some c) (replacement : String) :
    startsWithText (replaceText pattern replacement text) lead = true := by
  obtain ⟨rest,rfl⟩ := startsWithText_iff.mp h
  rw [startsWithText,List.isPrefixOf_iff_prefix,replaceText,String.toList_append,
    replaceFrom_append hpattern,String.toList_ofList]
  exact List.prefix_append _ _

namespace PatternWorkload

theorem isWord_tableName (id : String) : IsWord (tableName id) := by
  have hlead : IsWord "bench_" := by decide
  refine ⟨by simp [tableName],fun c hc => ?_⟩
  simp only [tableName,String.toList_append,String.toList_ofList,List.mem_append,List.mem_map] at hc
  rcases hc with hc | ⟨d,_,rfl⟩
  · exact hlead.solid c hc
  · split
    · rename_i hd
      exact forall_ascii (P := fun d => d.isAlphanum = true → isBlank d.toLower = false ∧
        d.toLower ≠ ';' ∧ d.toLower ≠ '(' ∧ d.toLower ≠ '\'') (by decide +kernel)
        (toNat_of_isAlphanum hd) hd
    · decide

/-- What is built comes from a fixture. -/
theorem build_eq_ok {p : Pattern} {rows seed : Nat} {modes : List CacheMode} {w : PatternWorkload}
    (h : build p rows modes seed = .ok w) :
    ∃ f, p.fixture rows seed = .ok f ∧ w = ofFixture f modes := by
  cases hfixture : p.fixture rows seed with
  | error e => simp [build,hfixture,Except.map] at h
  | ok f =>
    simp only [build,hfixture,Except.map,Except.ok.injEq] at h
    exact ⟨f,rfl,h.symm⟩

@[simp] theorem toWorkload_table (w : PatternWorkload) : w.toWorkload.table = w.table := rfl

/-- A workload as patterns are built into, with any parallelism. -/
def IsBuilt (w : PatternWorkload) : Prop :=
  ∃ p rows modes seed built workers,
    build p rows modes seed = .ok built ∧ w = built.withParallelism workers

/-- A dimension table of a thousand rows, its queries run hot. -/
def dimension : PatternWorkload := ofFixture (Pattern.dimensionFixture 1000 42) [.hot]

theorem isBuilt_dimension : dimension.IsBuilt := ⟨.dimension,1000,[.hot],42,dimension,0,rfl,rfl⟩

/-- What the texts of a built workload have in common. -/
structure IsPlain (w : PatternWorkload) : Prop where
  table : IsWord w.table
  statements : ∃ select, w.statements = loadStatements w.table select
  queries : ∀ q ∈ w.queries, startsWithText q.sql "SELECT" = true

theorem isPlain_ofFixture {f : Fixture} (hf : ∀ q ∈ f.templates, startsWithText q.sql "SELECT" = true)
    (modes : List CacheMode) : (ofFixture f modes).IsPlain where
  table := isWord_tableName f.id
  statements := ⟨f.select,rfl⟩
  queries q hq := by
    obtain ⟨template,htemplate,hq⟩ := List.mem_flatMap.mp hq
    obtain ⟨mode,_,rfl⟩ := List.mem_map.mp hq
    exact startsWithText_replaceText (hf template htemplate) (by simp [tableSlot]) _

theorem IsBuilt.isPlain {w : PatternWorkload} (h : w.IsBuilt) : w.IsPlain := by
  obtain ⟨p,rows,modes,seed,built,workers,hbuild,rfl⟩ := h
  obtain ⟨f,hfixture,rfl⟩ := build_eq_ok hbuild
  have hselects : ∀ q ∈ f.templates, startsWithText q.sql "SELECT" = true :=
    fun q hq => (Pattern.isQueryTemplate_templates hfixture q hq).selects
  have hplain := isPlain_ofFixture hselects modes
  exact ⟨hplain.table,hplain.statements,hplain.queries⟩

end PatternWorkload

end IndexTrial
