import IndexTrial.Client.Basic
import IndexTrial.Rehearsal.Store

/-!
A rehearsal: a client without a server, to try a suite on. Rules answer the statements that they
match; all others go to a small database that keeps tables and indexes and takes its latencies and
sizes from tables by engine.
-/

namespace IndexTrial

/-- Answers the statements that hold a text, after passing over some of them and for a number of
times. A rule without a reply only takes time. -/
structure Rule where
  pattern : String
  pass : Nat := 0
  times : Option Nat := none
  sleepNanos : Nat := 0
  reply : Option (Except Fault Execution) := none

namespace Rule

def isSpent (r : Rule) : Bool := r.times == some 0

def use (r : Rule) : Rule := { r with times := r.times.map (· - 1) }

/-- The rules after a statement, the time that they took, and the reply of the first to have
one. -/
def consult (sql : String) : List Rule → List Rule × Nat × Option (Except Fault Execution)
  | [] => ([],0,none)
  | r :: rs =>
    if !hasText sql r.pattern then
      let (rs,t,reply) := consult sql rs
      (r :: rs,t,reply)
    else if 0 < r.pass then
      let (rs,t,reply) := consult sql rs
      ({ r with pass := r.pass - 1 } :: rs,t,reply)
    else if r.isSpent then
      let (rs,t,reply) := consult sql rs
      (r :: rs,t,reply)
    else
      match r.reply with
      | some reply => (r.use :: rs,r.sleepNanos,some reply)
      | none =>
        let (rs,t,reply) := consult sql rs
        (r.use :: rs,r.sleepNanos + t,reply)

end Rule

structure Rehearsal where
  capacity : Except Fault Nat := .ok 134217728
  version : Option String := some "16.4 (Debian 16.4-1)"
  workers : Option String := some "0"
  createRows : Nat := 1000
  /-- Latencies of an engine's queries, over and over. -/
  latencies : List (String × List Binary64) := []
  sizes : List (String × Nat) := []
  buildMs : Binary64 := .ofNat 25
  /-- Replies to requests to evict buffers; the last one stays. -/
  evictions : List (Except Fault Eviction) := [.ok (.evicted 16)]
  fileEvictions : List (Except Fault Eviction) := [.ok (.evicted 1)]
  rules : List Rule := []
  store : Store := {}
  queried : List (String × Nat) := []
  clock : Nat := 0

namespace Rehearsal

def execution (durationMs : Binary64) (rows : List (List (Option String))) : Execution :=
  ⟨durationMs,rows⟩

def briefMs : Binary64 := .ofDecimal false 1 (-1)

def cell (c : Option String) : Execution := execution briefMs [[c]]

def done (ms : Binary64) : Execution := execution ms []

/-- A query: the next latency of the engine whose index is the newest. -/
def answerSelect (r : Rehearsal) : Execution × Rehearsal :=
  match r.store.newest? with
  | none => (execution .one [[some "1"]],r)
  | some i =>
    let n := (r.queried.lookup i.engine).getD 0
    let series := (r.latencies.lookup i.engine).getD []
    (execution (series.getD (n % series.length) .one) [[some "1"]],
      { r with queried := (i.engine,n + 1) :: r.queried.filter (·.1 != i.engine) })

/-- What a statement returns, once it has taken effect. -/
def answerStatement (r : Rehearsal) : Statement → Execution × Rehearsal
  | .hasRelation name => (cell (some (if r.store.hasRelation name then "t" else "f")),r)
  | .countRows table => (cell ((r.store.rows? table).map toString),r)
  | .indexSize name =>
    let size := (r.store.index? name).bind fun i => r.sizes.lookup i.engine
    (cell (some (toString (size.getD 0))),r)
  | .createTable _ | .dropTable _ | .dropIndex _ => (done .zero,r)
  | .createIndex _ _ _ => (done r.buildMs,r)
  | .showVersion => (cell r.version,r)
  | .showWorkers => (cell r.workers,r)
  | .select => r.answerSelect
  | .other => (done briefMs,r)

def execute (r : Rehearsal) (sql : String) : Except Fault Execution × Rehearsal :=
  let (rules,slept,reply) := Rule.consult sql r.rules
  let r := { r with rules, clock := r.clock + slept }
  match reply with
  | some reply => (reply,r)
  | none =>
    let statement := Statement.read sql
    match r.store.apply r.createRows statement with
    | .error e => (.error e,r)
    | .ok store =>
      let (e,r) := { r with store }.answerStatement statement
      (.ok e,r)

/-- The first reply, and the list for the next request. -/
def nextReply : List (Except Fault Eviction) → Except Fault Eviction × List (Except Fault Eviction)
  | [] => (.ok (.evicted 0),[])
  | [reply] => (reply,[reply])
  | reply :: rest => (reply,rest)

def client : Client Rehearsal where
  answer
    | .execute sql, r => r.execute sql
    | .evictRelation _, r =>
      let (reply,evictions) := nextReply r.evictions
      (reply,{ r with evictions })
    | .evictFiles _, r =>
      let (reply,fileEvictions) := nextReply r.fileEvictions
      (reply,{ r with fileEvictions })
    | .readCapacity, r => (r.capacity,r)
  clock r := (r.clock,r)

end Rehearsal

end IndexTrial
