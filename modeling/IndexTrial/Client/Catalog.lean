import IndexTrial.Client.Basic
import IndexTrial.Environment

/-! What a session can find out about the server and its relations, and the probe before a run. -/

namespace IndexTrial

namespace Session

variable {σ : Type}

/-- A count as text; anything unreadable counts as zero. -/
def countOf (cell : Option String) : Nat :=
  (cell.bind fun t => readUnsigned? 64 (trimmed t)).getD 0

def relationExists (relation : String) : Session σ Bool := do
  let e ← execute s!"SELECT to_regclass('{relation}') IS NOT NULL;"
  return e.scalar == some "t" || e.scalar == some "true"

/-- The rows of a table, or nothing if there is no such table. -/
def tableRowCount (table : String) : Session σ (Option Nat) := do
  if ← relationExists table then
    let e ← execute s!"SELECT count(*) FROM {table};"
    return some (countOf e.scalar)
  else return none

def relationSize (relation : String) : Session σ Nat := do
  let e ← execute s!"SELECT pg_relation_size('{relation}');"
  return countOf e.scalar

/-- The first word of what the server says of its version. -/
def serverVersion : Session σ (Option String) := do
  let e ← attemptAny (execute "SHOW server_version;")
  return (e.bind (·.scalar)).map fun t => (words t).headD t

def maxParallelWorkers : Session σ (Option Nat) := do
  let e ← attemptAny (execute "SHOW max_parallel_workers_per_gather;")
  return (e.bind (·.scalar)).bind fun t => readUnsigned? 32 (trimmed t)

/-- Never fails: an unreadable capacity counts as the smallest scale. -/
def probe : Session σ Environment := do
  let capacity ← attemptAny (ask .readCapacity)
  let serverVersion ← serverVersion
  let maxParallelWorkers ← maxParallelWorkers
  return { Environment.ofCapacity capacity with serverVersion, maxParallelWorkers }

end Session

end IndexTrial
