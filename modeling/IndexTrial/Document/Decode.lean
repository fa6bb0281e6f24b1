import IndexTrial.Json.Reader
import IndexTrial.Json.Record
import IndexTrial.Run.Artifact

/-! Reading the JSON form of an artifact and of its parts. -/

namespace IndexTrial

open Json

def Moment.ofJson? (j : Json) : Option Moment := (asText? j).bind Moment.read?

def RunId.ofJson? (j : Json) : Option RunId := (asText? j).bind RunId.read?

def CacheMode.ofJson? : Json → Option CacheMode := asConstant? CacheMode.named

def Environment.ofJson? (j : Json) : Option Environment := do
  let r ← record? ["tier","tier_name","capacity_bytes","row_counts","timeout_secs",
    "server_version","max_parallel_workers","annotations"] j
  return {
    scale := ← r.required 0 (asConstant? Scale.named)
    scaleName := ← r.required 1 asText?
    capacityBytes := ← r.nullable 2 (asUnsigned? 64)
    rowCounts := ← r.required 3 (asList? (asUnsigned? 64))
    timeoutSeconds := ← r.required 4 (asUnsigned? 64)
    serverVersion := ← r.nullable 5 asText?
    maxParallelWorkers := ← r.nullable 6 (asUnsigned? 32)
    annotations := ← r.required 7 (asList? asText?) }

def Sample.ofJson? (j : Json) : Option Sample := do
  let r ← record? ["workload_id","query_id","engine","cache_mode","duration_ms",
    "recorded_at"] j
  return {
    workload := ← r.required 0 asText?
    query := ← r.required 1 asText?
    engine := ← r.required 2 asText?
    mode := ← r.required 3 CacheMode.ofJson?
    duration := ← r.required 4 asBinary64?
    recordedAt := ← r.required 5 Moment.ofJson? }

def LatencySummary.ofJson? (j : Json) : Option LatencySummary := do
  let r ← record? ["samples","p50_ms","p95_ms","p99_ms","mean_ms","min_ms","max_ms"] j
  return {
    samples := ← r.required 0 (asUnsigned? 64)
    p50 := ← r.required 1 asBinary64?
    p95 := ← r.required 2 asBinary64?
    p99 := ← r.optional 3 asBinary64?
    mean := ← r.required 4 asBinary64?
    min := ← r.required 5 asBinary64?
    max := ← r.required 6 asBinary64? }

def IndexFigures.ofJson? (j : Json) : Option IndexFigures := do
  let r ← record? ["engine","index_name","size_bytes","build_time_ms"] j
  return {
    engine := ← r.required 0 asText?
    name := ← r.required 1 asText?
    sizeBytes := ← r.nullable 2 (asUnsigned? 64)
    buildMs := ← r.nullable 3 asBinary64? }

/-- The verdict of a level, given the record of what stands beside the level. -/
def Verdict.ofLevel? (level : String) (ratio : Option Binary64) : Option Verdict :=
  match level with
  | "ok" => some .ok
  | "warning" => ratio.map .warning
  | "critical" => ratio.map .critical
  | _ => none

/-- The level may stand anywhere in an object and comes first in an array. Everything beside it
must be sound, even where it is passed over. -/
def Verdict.ofJson? : Json → Option Verdict
  | .object fs => do
    let level ← (← uniqueField? "level" fs).bind asText?
    if !fieldsSound fs then none
    else if level = "ok" then some .ok
    else ofLevel? level ((← uniqueField? "ratio" fs).bind asBinary64?)
  | .array [.text "ok"] => some .ok
  | .array [.text level,ratio] =>
    if level = "ok" then none else ofLevel? level (asBinary64? ratio)
  | _ => none

def Comparison.ofJson? (j : Json) : Option Comparison := do
  let r ← record? ["latency","latency_ratio","size","size_ratio"] j
  return {
    latency := ← r.optional 0 Verdict.ofJson?
    latencyRatio := ← r.optional 1 asBinary64?
    size := ← r.optional 2 Verdict.ofJson?
    sizeRatio := ← r.optional 3 asBinary64? }

def Measurement.ofJson? (j : Json) : Option Measurement := do
  let r ← record? ["workload_id","query_id","engine","cache_mode","repeat","status",
    "samples","summary","index","annotations","error","regression"] j
  return {
    workload := ← r.required 0 asText?
    query := ← r.required 1 asText?
    engine := ← r.required 2 asText?
    mode := ← r.required 3 CacheMode.ofJson?
    repeats := ← r.required 4 (asUnsigned? 32)
    status := ← r.required 5 (asConstant? Status.named)
    samples := ← r.required 6 (asList? Sample.ofJson?)
    summary := ← r.optional 7 LatencySummary.ofJson?
    index := ← r.optional 8 IndexFigures.ofJson?
    annotations := ← r.defaulted 9 (asList? asText?) []
    error := ← r.optional 10 asText?
    comparison := ← r.optional 11 Comparison.ofJson? }

def Outcome.ofJson? (j : Json) : Option Outcome := do
  let r ← record? ["workload_id","description","table","status","generated","row_count",
    "error","elapsed_secs"] j
  return {
    workload := ← r.required 0 asText?
    description := ← r.required 1 asText?
    table := ← r.required 2 asText?
    status := ← r.required 3 (asConstant? OutcomeStatus.named)
    generated := ← r.required 4 asBool?
    rowCount := ← r.optional 5 (asUnsigned? 64)
    error := ← r.optional 6 asText?
    elapsedSeconds := ← r.required 7 asBinary64? }

def Budget.ofJson? (j : Json) : Option Budget := do
  let r ← record? ["limit_secs","elapsed_secs","exhausted"] j
  return {
    limitSeconds := ← r.required 0 (asUnsigned? 64)
    elapsedSeconds := ← r.required 1 asBinary64?
    exhausted := ← r.required 2 asBool? }

def EnginePair.ofJson? (j : Json) : Option EnginePair := do
  let r ← record? ["baseline","candidate"] j
  return { baseline := ← r.required 0 asText?, candidate := ← r.required 1 asText? }

def WorkloadAdvice.ofJson? (j : Json) : Option WorkloadAdvice := do
  let r ← record? ["workload_id","recommendation","query_id","cache_mode","speedup",
    "compression","reason"] j
  return {
    workload := ← r.required 0 asText?
    advice := ← r.optional 1 (asConstant? Advice.named)
    query := ← r.optional 2 asText?
    mode := ← r.optional 3 CacheMode.ofJson?
    speedup := ← r.optional 4 asBinary64?
    compression := ← r.optional 5 asBinary64?
    reason := ← r.required 6 asText? }

def StatusCounts.ofJson? (j : Json) : Option StatusCounts := do
  let r ← record? ["ok","incomplete","skipped"] j
  return {
    ok := ← r.required 0 (asUnsigned? 64)
    incomplete := ← r.required 1 (asUnsigned? 64)
    skipped := ← r.required 2 (asUnsigned? 64) }

def VerdictCounts.ofJson? (j : Json) : Option VerdictCounts := do
  let r ← record? ["ok","warning","critical","no_baseline"] j
  return {
    ok := ← r.required 0 (asUnsigned? 64)
    warning := ← r.required 1 (asUnsigned? 64)
    critical := ← r.required 2 (asUnsigned? 64)
    noBaseline := ← r.required 3 (asUnsigned? 64) }

def RunSummary.ofJson? (j : Json) : Option RunSummary := do
  let r ← record? ["results","workloads_completed","workloads_skipped","verdicts",
    "budget_truncated","recommendations"] j
  return {
    results := ← r.required 0 StatusCounts.ofJson?
    completed := ← r.required 1 (asUnsigned? 64)
    skipped := ← r.required 2 (asUnsigned? 64)
    verdicts := ← r.required 3 VerdictCounts.ofJson?
    truncated := ← r.required 4 asBool?
    advice := ← r.required 5 (asList? WorkloadAdvice.ofJson?) }

def Artifact.ofJson? (j : Json) : Option Artifact := do
  let r ← record? ["run_id","mode","started_at","finished_at","environment","engines",
    "baseline_loaded","budget","workloads","results","summary"] j
  return {
    id := ← r.required 0 RunId.ofJson?
    mode := ← r.required 1 (asConstant? SuiteMode.named)
    startedAt := ← r.required 2 Moment.ofJson?
    finishedAt := ← r.required 3 Moment.ofJson?
    environment := ← r.required 4 Environment.ofJson?
    engines := ← r.required 5 EnginePair.ofJson?
    baselineLoaded := ← r.required 6 asBool?
    budget := ← r.required 7 Budget.ofJson?
    outcomes := ← r.required 8 (asList? Outcome.ofJson?)
    results := ← r.required 9 (asList? Measurement.ofJson?)
    summary := ← r.required 10 RunSummary.ofJson? }

def Artifact.ofDocument? (text : String) : Option Artifact := (read? text).bind ofJson?

end IndexTrial
