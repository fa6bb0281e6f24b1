import IndexTrial.Measure.Measurement
import IndexTrial.Trial.Caching
import IndexTrial.Trial.Options
import IndexTrial.Workload.Basic

/-!
Execution of one workload on both engines, strictly in sequence. Only a lost connection escapes;
every other fault is recorded on the unit that it invalidates: the workload, an engine of it, or a
single query.
-/

namespace IndexTrial

namespace Executor

variable {σ : Type}

def unmeasured (workload engine : String) (queries : List Query) (reason : String) :
    List Measurement :=
  queries.map fun q =>
    .unmeasured workload q.id engine q.mode (SamplingPlan.ofQuery q {}).repeats reason

/-- The existing rows of a table that may be reused. -/
def reusableRows (o : TrialOptions) (table : String) : Session σ (Option Nat) :=
  if o.reuseData then do
    match ← (Session.tableRowCount table).attempt with
    | .ok (some rows) => return if 0 < rows then some rows else none
    | _ => return none
  else return none

/-- Loads the data unless rows are there to be reused. The answer says whether it loaded them, and
how many rows there are. -/
def ensureData (o : TrialOptions) (w : Workload) : Session σ (Bool × Option Nat) := do
  match ← reusableRows o w.table with
  | some rows => return (false,some rows)
  | none =>
    w.loading.play.mapFault (.asGeneration w.id)
    match ← (Session.tableRowCount w.table).attempt with
    | .ok rows => return (true,rows)
    | .error _ => return (true,none)

def buildIndex (w : Workload) (engine : String) : Session σ IndexFigures := do
  let name := indexName w.table engine
  let _ ← (Session.execute s!"DROP INDEX IF EXISTS {name};").mapFault (.asIndexBuild engine)
  let build ← (Session.execute (w.createIndexSql engine)).mapFault (.asIndexBuild engine)
  let size ← (Session.relationSize name).attempt
  return { engine, name, sizeBytes := size.toOption, buildMs := some build.durationMs }

def housekeep (sql : String) : Session σ Unit := do
  let _ ← (Session.execute sql).attempt

def sessionSql (parallelism : Nat) : String :=
  "SET enable_seqscan = off; SET enable_bitmapscan = off; SET enable_indexonlyscan = on; " ++
    s!"SET max_parallel_workers_per_gather = {parallelism};"

def resetSql : String :=
  "RESET enable_seqscan; RESET enable_bitmapscan; RESET enable_indexonlyscan; " ++
    "RESET max_parallel_workers_per_gather;"

/-- `n` more measured executions. The first one to fail ends the measurement. -/
def sampleQuery (sql : String) (r : Recorder) : Nat → Session σ Measurement
  | 0 => return r.finish
  | n + 1 => do
    match ← (Session.execute sql).attempt with
    | .ok e =>
      let time ← Session.now
      sampleQuery sql (r.record e.durationMs time) n
    | .error e => return r.fail e

def measure (sql : String) (plan : SamplingPlan) (r : Recorder) : Session σ Measurement :=
  if plan.warmup then do
    match ← (Session.execute sql).attempt with
    | .ok _ => sampleQuery sql r plan.repeats
    | .error e => return r.fail e
  else sampleQuery sql r plan.repeats

/-- Prepares the cache, then samples one query. -/
def runQuery (o : TrialOptions) (w : Workload) (engine : String) (q : Query) :
    Session σ Measurement := do
  let index := indexName w.table engine
  match ← (Caching.prepareQuery o.evictFiles index w.table q).attempt with
  | .error e =>
    let plan := SamplingPlan.ofQuery q {}
    return (Recorder.start w.id q.id engine q.mode plan.repeats).fail e
  | .ok p =>
    let plan := SamplingPlan.ofQuery q p
    measure q.sql plan
      ((Recorder.start w.id q.id engine q.mode plan.repeats).annotate p.annotations)

def runQueries (o : TrialOptions) (w : Workload) (engine : String) (index : IndexFigures) :
    Session σ (List Measurement) :=
  Session.collect
    (fun q => do
      let m ← runQuery o w engine q
      return { m with index := some index })
    w.queries

/-- One engine: its index, its session, its queries, and the index dropped again. -/
def runEngine (o : TrialOptions) (w : Workload) (engine : String) :
    Session σ (List Measurement) := do
  match ← (buildIndex w engine).attempt with
  | .error e => return unmeasured w.id engine w.queries e.message
  | .ok index =>
    housekeep (sessionSql w.parallelism)
    let ms ← runQueries o w engine index
    housekeep s!"DROP INDEX IF EXISTS {index.name};"
    return ms

structure Report where
  outcome : Outcome
  results : List Measurement
  deriving DecidableEq, Repr

def unmeasuredBoth (o : TrialOptions) (w : Workload) (reason : String) : List Measurement :=
  o.engines.toList.flatMap fun engine => unmeasured w.id engine w.queries reason

def skippedReport (o : TrialOptions) (w : Workload) (reason : String) : Report where
  outcome :=
    { workload := w.id, description := w.description, table := w.table, status := .skipped
      error := some reason }
  results := unmeasuredBoth o w reason

/-- Seconds between two readings of the clock; none if it went backwards. -/
def secondsBetween (start stop : Nat) : Binary64 := .secondsOfNanos (stop - start)

def runEngines (o : TrialOptions) (w : Workload) : Session σ (List Measurement) := do
  let base ← runEngine o w o.engines.baseline
  let cand ← runEngine o w o.engines.candidate
  housekeep resetSql
  if !o.reuseData then housekeep s!"DROP TABLE IF EXISTS {w.table} CASCADE;"
  return base ++ cand

def execute (o : TrialOptions) (w : Workload) : Session σ Report := do
  let start ← Session.readClock
  let report ← match ← (ensureData o w).attempt with
    | .error e => pure (skippedReport o w e.message)
    | .ok (generated,rowCount) => do
      let results ← runEngines o w
      pure {
        outcome :=
          { workload := w.id, description := w.description, table := w.table
            status := .completed, generated, rowCount }
        results }
  let stop ← Session.readClock
  return { report with
    outcome := { report.outcome with elapsedSeconds := secondsBetween start stop } }

end Executor

end IndexTrial
