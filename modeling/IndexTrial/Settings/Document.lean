import IndexTrial.Document.Decode
import IndexTrial.Document.Encode
import IndexTrial.Settings.Basic

/-!
The JSON form of settings. Every section and every field may be missing; unknown ones are errors.
-/

namespace IndexTrial

open Json

def Thresholds.toJson (t : Thresholds) : Json :=
  .object
    [("latency_warning",.float t.latencyWarning),("latency_critical",.float t.latencyCritical),
      ("size_warning",.float t.sizeWarning)]

def AdviceThresholds.toJson (t : AdviceThresholds) : Json :=
  .object
    [("strong_speedup",.float t.strongSpeedup),
      ("strong_compression",.float t.strongCompression),("speedup",.float t.speedup),
      ("size_only_compression",.float t.sizeOnlyCompression),
      ("avoid_below",.float t.avoidBelow)]

def DatabaseSettings.toJson (d : DatabaseSettings) : Json :=
  .object
    [("host",.text d.host),("port",.nat d.port),("user",.text d.user),
      ("dbname",.text d.name),("password",.optional .text d.password),
      ("statement_timeout_ms",.nat d.statementTimeoutMs)]

def EvictionSettings.toJson (e : EvictionSettings) : Json :=
  .object
    [("enabled",.bool e.enabled),("os_evict_command",.text e.command),
      ("os_evict_args",.array (e.arguments.map .text))]

def PathSettings.toJson (p : PathSettings) : Json :=
  .object [("baseline",.text p.baseline),("results_dir",.text p.resultsDirectory)]

def RunSettings.toJson (r : RunSettings) : Json :=
  .object
    [("reuse_data",.bool r.reuseData),("seed",.nat r.seed),
      ("budget_override_secs",.optional .nat r.budgetSeconds)]

def LoggingSettings.toJson (l : LoggingSettings) : Json :=
  .object [("level",.text l.level.name),("format",.text l.format.name)]

def Settings.toJson (s : Settings) : Json :=
  .object
    [("database",s.database.toJson),("engines",s.engines.toJson),
      ("thresholds",s.thresholds.toJson),("decision",s.decision.toJson),
      ("eviction",s.eviction.toJson),("paths",s.paths.toJson),("run",s.run.toJson),
      ("logging",s.logging.toJson)]

/-- The names of the sections and of their fields, in declared order. -/
def Settings.sections : List (String × List String) :=
  [("database",["host","port","user","dbname","password","statement_timeout_ms"]),
    ("engines",["baseline","candidate"]),
    ("thresholds",["latency_warning","latency_critical","size_warning"]),
    ("decision",
      ["strong_speedup","strong_compression","speedup","size_only_compression","avoid_below"]),
    ("eviction",["enabled","os_evict_command","os_evict_args"]),
    ("paths",["baseline","results_dir"]),
    ("run",["reuse_data","seed","budget_override_secs"]),
    ("logging",["level","format"])]

def Settings.fieldsOf (name : String) : List String := (sections.lookup name).getD []

open Settings (fieldsOf)

def DatabaseSettings.ofJson? (j : Json) : Option DatabaseSettings := do
  let r ← closedRecord? (fieldsOf "database") j
  let d : DatabaseSettings := {}
  return {
    host := ← r.defaulted 0 asText? d.host
    port := ← r.defaulted 1 (asUnsigned? 16) d.port
    user := ← r.defaulted 2 asText? d.user
    name := ← r.defaulted 3 asText? d.name
    password := ← r.optional 4 asText?
    statementTimeoutMs := ← r.defaulted 5 (asUnsigned? 64) d.statementTimeoutMs }

def EnginePair.ofSettings? (j : Json) : Option EnginePair := do
  let r ← closedRecord? (fieldsOf "engines") j
  let d : Settings := {}
  return {
    baseline := ← r.defaulted 0 asText? d.engines.baseline
    candidate := ← r.defaulted 1 asText? d.engines.candidate }

def Thresholds.ofJson? (j : Json) : Option Thresholds := do
  let r ← closedRecord? (fieldsOf "thresholds") j
  let d := Thresholds.standard
  return {
    latencyWarning := ← r.defaulted 0 asBinary64? d.latencyWarning
    latencyCritical := ← r.defaulted 1 asBinary64? d.latencyCritical
    sizeWarning := ← r.defaulted 2 asBinary64? d.sizeWarning }

def AdviceThresholds.ofJson? (j : Json) : Option AdviceThresholds := do
  let r ← closedRecord? (fieldsOf "decision") j
  let d := AdviceThresholds.standard
  return {
    strongSpeedup := ← r.defaulted 0 asBinary64? d.strongSpeedup
    strongCompression := ← r.defaulted 1 asBinary64? d.strongCompression
    speedup := ← r.defaulted 2 asBinary64? d.speedup
    sizeOnlyCompression := ← r.defaulted 3 asBinary64? d.sizeOnlyCompression
    avoidBelow := ← r.defaulted 4 asBinary64? d.avoidBelow }

def EvictionSettings.ofJson? (j : Json) : Option EvictionSettings := do
  let r ← closedRecord? (fieldsOf "eviction") j
  let d : EvictionSettings := {}
  return {
    enabled := ← r.defaulted 0 asBool? d.enabled
    command := ← r.defaulted 1 asText? d.command
    arguments := ← r.defaulted 2 (asList? asText?) d.arguments }

def PathSettings.ofJson? (j : Json) : Option PathSettings := do
  let r ← closedRecord? (fieldsOf "paths") j
  let d : PathSettings := {}
  return {
    baseline := ← r.defaulted 0 asText? d.baseline
    resultsDirectory := ← r.defaulted 1 asText? d.resultsDirectory }

def RunSettings.ofJson? (j : Json) : Option RunSettings := do
  let r ← closedRecord? (fieldsOf "run") j
  let d : RunSettings := {}
  return {
    reuseData := ← r.defaulted 0 asBool? d.reuseData
    seed := ← r.defaulted 1 (asUnsigned? 64) d.seed
    budgetSeconds := ← r.optional 2 (asUnsigned? 64) }

def LoggingSettings.ofJson? (j : Json) : Option LoggingSettings := do
  let r ← closedRecord? (fieldsOf "logging") j
  let d : LoggingSettings := {}
  return {
    level := ← r.defaulted 0 (asConstant? LogLevel.named) d.level
    format := ← r.defaulted 1 (asConstant? LogFormat.named) d.format }

def Settings.ofJson? (j : Json) : Option Settings := do
  let r ← closedRecord? (sections.map (·.1)) j
  let d : Settings := {}
  return {
    database := ← r.defaulted 0 DatabaseSettings.ofJson? d.database
    engines := ← r.defaulted 1 EnginePair.ofSettings? d.engines
    thresholds := ← r.defaulted 2 Thresholds.ofJson? d.thresholds
    decision := ← r.defaulted 3 AdviceThresholds.ofJson? d.decision
    eviction := ← r.defaulted 4 EvictionSettings.ofJson? d.eviction
    paths := ← r.defaulted 5 PathSettings.ofJson? d.paths
    run := ← r.defaulted 6 RunSettings.ofJson? d.run
    logging := ← r.defaulted 7 LoggingSettings.ofJson? d.logging }

end IndexTrial
