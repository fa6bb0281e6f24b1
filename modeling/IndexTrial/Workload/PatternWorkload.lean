import IndexTrial.Workload.Pattern

/-!
Workloads described by SQL text alone: a fixture with its table named and its queries expanded over
cache modes.
-/

namespace IndexTrial

structure PatternWorkload where
  id : String
  description : String
  table : String
  indexColumns : String
  includeColumns : List String
  predicate : Option String
  parallelism : Nat := 0
  /-- Run one at a time: a vacuum refuses to stand in a transaction with others. -/
  statements : List String
  queries : List Query
  deriving Repr

namespace PatternWorkload

/-- The table of a workload: its id with everything but ASCII letters and digits replaced. -/
def tableName (id : String) : String :=
  "bench_" ++ String.ofList (id.toList.map fun c => if c.isAlphanum then c.toLower else '_')

def loadStatements (table select : String) : List String :=
  [s!"DROP TABLE IF EXISTS {table} CASCADE;",
    s!"CREATE UNLOGGED TABLE {table} AS {select};",
    s!"ALTER TABLE {table} SET (autovacuum_enabled = off);",
    s!"VACUUM (FREEZE, ANALYZE) {table};"]

def instantiate (table : String) (mode : CacheMode) (q : Query) : Query :=
  { q with mode, sql := replaceText tableSlot table q.sql }

/-- Every template in every mode, the modes of one template side by side. -/
def expand (table : String) (modes : List CacheMode) (templates : List Query) : List Query :=
  templates.flatMap fun q => modes.map fun mode => instantiate table mode q

theorem length_expand (table : String) (modes : List CacheMode) (templates : List Query) :
    (expand table modes templates).length = templates.length * modes.length := by
  induction templates with
  | nil => simp [expand]
  | cons q qs ih =>
    simp only [expand,List.flatMap_cons,List.length_append,List.length_map,
      List.length_cons] at ih ⊢
    rw [ih,Nat.succ_mul,Nat.add_comm]

def ofFixture (f : Fixture) (modes : List CacheMode) : PatternWorkload :=
  let table := tableName f.id
  { id := f.id
    description := f.description
    table
    indexColumns := f.indexColumns
    includeColumns := f.includeColumns
    predicate := f.predicate
    statements := loadStatements table f.select
    queries := expand table modes f.templates }

def build (p : Pattern) (rows : Nat) (modes : List CacheMode) (seed : Nat) :
    Except WordFault PatternWorkload :=
  (p.fixture rows seed).map (ofFixture · modes)

def withParallelism (w : PatternWorkload) (workers : Nat) : PatternWorkload :=
  { w with parallelism := workers }

/-- A failing statement fails the workload's data, unless the connection is lost. -/
def describeFault (id : String) (e : Fault) : Fault :=
  if e.isFatal then e else .generation id e.message

def toWorkload (w : PatternWorkload) : Workload where
  id := w.id
  description := w.description
  table := w.table
  indexColumns := w.indexColumns
  includeColumns := w.includeColumns
  predicate := w.predicate
  parallelism := w.parallelism
  queries := w.queries
  loading := .ofStatements (describeFault w.id) w.statements

end PatternWorkload

end IndexTrial
