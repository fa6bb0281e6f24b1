import IndexTrial.Layers.Lenient
import IndexTrial.Settings.Document

/-!
Settings from raw values. As in the JSON form every section and every field may be missing and
unknown ones are errors, but scalars are read leniently.
-/

namespace IndexTrial

open RawValue
open Settings (fieldsOf)

def DatabaseSettings.ofRaw? (v : RawValue) : Option DatabaseSettings := do
  let r ← v.fields? (fieldsOf "database")
  let d : DatabaseSettings := {}
  return {
    host := ← field? r 0 asText? d.host
    port := ← field? r 1 (asUnsigned? 16) d.port
    user := ← field? r 2 asText? d.user
    name := ← field? r 3 asText? d.name
    password := ← field? r 4 (asOptional? asText?) d.password
    statementTimeoutMs := ← field? r 5 (asUnsigned? 64) d.statementTimeoutMs }

def EnginePair.ofRaw? (v : RawValue) : Option EnginePair := do
  let r ← v.fields? (fieldsOf "engines")
  let d : Settings := {}
  return {
    baseline := ← field? r 0 asText? d.engines.baseline
    candidate := ← field? r 1 asText? d.engines.candidate }

def Thresholds.ofRaw? (v : RawValue) : Option Thresholds := do
  let r ← v.fields? (fieldsOf "thresholds")
  let d := Thresholds.standard
  return {
    latencyWarning := ← field? r 0 asBinary64? d.latencyWarning
    latencyCritical := ← field? r 1 asBinary64? d.latencyCritical
    sizeWarning := ← field? r 2 asBinary64? d.sizeWarning }

def AdviceThresholds.ofRaw? (v : RawValue) : Option AdviceThresholds := do
  let r ← v.fields? (fieldsOf "decision")
  let d := AdviceThresholds.standard
  return {
    strongSpeedup := ← field? r 0 asBinary64? d.strongSpeedup
    strongCompression := ← field? r 1 asBinary64? d.strongCompression
    speedup := ← field? r 2 asBinary64? d.speedup
    sizeOnlyCompression := ← field? r 3 asBinary64? d.sizeOnlyCompression
    avoidBelow := ← field? r 4 asBinary64? d.avoidBelow }

def EvictionSettings.ofRaw? (v : RawValue) : Option EvictionSettings := do
  let r ← v.fields? (fieldsOf "eviction")
  let d : EvictionSettings := {}
  return {
    enabled := ← field? r 0 asBool? d.enabled
    command := ← field? r 1 asText? d.command
    arguments := ← field? r 2 (asList? asText?) d.arguments }

def PathSettings.ofRaw? (v : RawValue) : Option PathSettings := do
  let r ← v.fields? (fieldsOf "paths")
  let d : PathSettings := {}
  return {
    baseline := ← field? r 0 asText? d.baseline
    resultsDirectory := ← field? r 1 asText? d.resultsDirectory }

def RunSettings.ofRaw? (v : RawValue) : Option RunSettings := do
  let r ← v.fields? (fieldsOf "run")
  let d : RunSettings := {}
  return {
    reuseData := ← field? r 0 asBool? d.reuseData
    seed := ← field? r 1 (asUnsigned? 64) d.seed
    budgetSeconds := ← field? r 2 (asOptional? (asUnsigned? 64)) d.budgetSeconds }

def LoggingSettings.ofRaw? (v : RawValue) : Option LoggingSettings := do
  let r ← v.fields? (fieldsOf "logging")
  let d : LoggingSettings := {}
  return {
    level := ← field? r 0 (asConstant? LogLevel.named) d.level
    format := ← field? r 1 (asConstant? LogFormat.named) d.format }

def Settings.ofRaw? (v : RawValue) : Option Settings := do
  let r ← v.fields? (sections.map (·.1))
  let d : Settings := {}
  return {
    database := ← field? r 0 DatabaseSettings.ofRaw? d.database
    engines := ← field? r 1 EnginePair.ofRaw? d.engines
    thresholds := ← field? r 2 Thresholds.ofRaw? d.thresholds
    decision := ← field? r 3 AdviceThresholds.ofRaw? d.decision
    eviction := ← field? r 4 EvictionSettings.ofRaw? d.eviction
    paths := ← field? r 5 PathSettings.ofRaw? d.paths
    run := ← field? r 6 RunSettings.ofRaw? d.run
    logging := ← field? r 7 LoggingSettings.ofRaw? d.logging }

end IndexTrial
