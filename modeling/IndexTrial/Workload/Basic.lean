import IndexTrial.Client.Basic
import IndexTrial.Measure.Query

/-!
A workload: a table with its data, the index to build on it, and the queries to measure.
-/

namespace IndexTrial

/-- How a workload loads its data: call by call, each step chosen by the reply to the one
before. -/
inductive LoadScript
  | stop (outcome : Except Fault Unit)
  | run (call : Call) (next : Except Fault call.Answer → LoadScript)

namespace LoadScript

/-- Runs the statements in order and stops at the first fault, which it reports through
`describe`. -/
def ofStatements (describe : Fault → Fault) : List String → LoadScript
  | [] => stop (.ok ())
  | sql :: rest => run (.execute sql) fun
    | .ok _ => ofStatements describe rest
    | .error e => stop (.error (describe e))

def play {σ : Type} : LoadScript → Session σ Unit
  | stop outcome => fun _ w => (outcome,w)
  | run call next => fun c w =>
    let (reply,w) := Session.ask call c w
    play (next reply) c w

end LoadScript

structure Workload where
  /-- Stable; baseline keys hold it. -/
  id : String
  description : String
  table : String
  indexColumns : String
  includeColumns : List String := []
  /-- Restricts the index to some rows. -/
  predicate : Option String := none
  parallelism : Nat := 0
  /-- In declared order, one for each cache mode measured. -/
  queries : List Query
  loading : LoadScript

def indexName (table engine : String) : String := s!"idx_{table}_{engine}"

namespace Workload

def createIndexSql (w : Workload) (engine : String) : String :=
  let columns := ", ".intercalate w.includeColumns
  let covering := if w.includeColumns.isEmpty then "" else s!" INCLUDE ({columns})"
  let restriction := w.predicate.elim "" (" WHERE " ++ ·)
  s!"CREATE INDEX {indexName w.table engine} ON {w.table} USING {engine}({w.indexColumns})" ++
    covering ++ restriction ++ ";"

end Workload

end IndexTrial
