import IndexTrial.Json.Loose
import IndexTrial.Rehearsal.Client
import IndexTrial.Rehearsal.Server

/-! Rehearsals as JSON: what the simulated database and the staged server are to do. -/

namespace IndexTrial

open Json

def Fault.ofScript (j : Json) : Fault :=
  let m := str j "message"
  let r := str j "reason"
  match str j "kind" with
  | "Connection" => .connection m
  | "Generation" => .generation (str j "workload") r
  | "IndexBuild" => .indexBuild (str j "engine") r
  | "QueryTimeout" => .queryTimeout (str j "sql") (getNat j "limit_ms" 0)
  | "EvictionUnsupported" => .evictionUnsupported m
  | "Baseline" => .baseline m
  | _ => .queryFailed m

namespace Rehearsal

def scriptRows (j : Json) : Rows :=
  (listOf j).map fun row => (listOf row).map fun
    | .text s => some s
    | _ => none

def scriptEviction (j : Json) : Except Fault Eviction :=
  match field? j "evicted", field? j "unsupported", field? j "error" with
  | some n, _, _ => .ok (.evicted (natOf n))
  | _, some t, _ => .ok (.unsupported (textOf t))
  | _, _, some e => .error (.ofScript e)
  | _, _, _ => .ok (.evicted 0)

def scriptEvictions (j : Json) : List (Except Fault Eviction) := (listOf j).map scriptEviction

def scriptRule (j : Json) : Rule where
  pattern := str j "match"
  pass := getNat j "pass" 0
  times := opt j "times" natOf
  sleepNanos := (getFloat j "sleep_ms" .zero).truncated * 10 ^ 6
  reply := match field? j "error", field? j "rows" with
    | some e, _ => some (.error (.ofScript e))
    | none, some rows => some (.ok ⟨getFloat j "ms" .zero,scriptRows rows⟩)
    | none, none => none

def scriptCell (j : Json) (key : String) (default : Option String) : Option String :=
  match (fieldsOf j).lookup key with
  | some .null => none
  | some t => some (textOf t)
  | none => default

def ofScript (j : Json) : Rehearsal :=
  let d : Rehearsal := {}
  { d with
    capacity := match field? j "capacity" with
      | some c => (field? c "error").elim (.ok (getNat c "bytes" 0)) (.error <| .ofScript ·)
      | none => d.capacity
    version := scriptCell j "version" d.version
    workers := scriptCell j "workers" d.workers
    createRows := getNat j "create_rows" d.createRows
    latencies := getMap j "latency" fun v => (listOf v).map floatOf
    sizes := getMap j "sizes" natOf
    buildMs := getFloat j "build_ms" d.buildMs
    evictions := (opt j "evict" scriptEvictions).getD d.evictions
    fileEvictions := (opt j "os_evict" scriptEvictions).getD d.fileEvictions
    rules := (getList j "rules").map scriptRule
    store := { tables := getMap j "tables" natOf } }

end Rehearsal

namespace Stage

def scriptRule (j : Json) : ServerRule where
  pattern := str j "match"
  pass := getNat j "pass" 0
  times := opt j "times" natOf
  error := opt j "error" fun e => (getText e "code" "XX000",str e "message")
  rows := opt j "rows" Rehearsal.scriptRows
  closes := getBool j "close" false

def ofScript (j : Json) (files : FileTree) : Stage where
  listens := !getBool j "down" false
  refusal := opt j "refuse" fun r => str r "message"
  rules := (getList j "rules").map scriptRule
  files

end Stage

end IndexTrial
