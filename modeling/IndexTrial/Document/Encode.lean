import IndexTrial.Json.Basic
import IndexTrial.Run.Artifact

/-!
The JSON form of an artifact and of its parts. Fields stand in a fixed order; a field that may be
absent is left out when there is nothing to say, others are written as `null`.
-/

namespace IndexTrial

/-- A field that is left out without a value. -/
def presentField {α : Type} (name : String) (encode : α → Json) (value : Option α) :
    List (String × Json) :=
  value.toList.map fun a => (name,encode a)

def Moment.toJson (m : Moment) : Json := .text m.zulu

def CacheMode.toJson (m : CacheMode) : Json := .text m.name

def Environment.toJson (e : Environment) : Json :=
  .object
    [("tier",.text e.scale.name),("tier_name",.text e.scaleName),
      ("capacity_bytes",.optional .nat e.capacityBytes),
      ("row_counts",.array (e.rowCounts.map .nat)),("timeout_secs",.nat e.timeoutSeconds),
      ("server_version",.optional .text e.serverVersion),
      ("max_parallel_workers",.optional .nat e.maxParallelWorkers),
      ("annotations",.array (e.annotations.map .text))]

def Sample.toJson (s : Sample) : Json :=
  .object
    [("workload_id",.text s.workload),("query_id",.text s.query),("engine",.text s.engine),
      ("cache_mode",s.mode.toJson),("duration_ms",.float s.duration),
      ("recorded_at",s.recordedAt.toJson)]

def LatencySummary.toJson (s : LatencySummary) : Json :=
  .object <|
    [("samples",.nat s.samples),("p50_ms",.float s.p50),("p95_ms",.float s.p95)] ++
    presentField "p99_ms" .float s.p99 ++
    [("mean_ms",.float s.mean),("min_ms",.float s.min),("max_ms",.float s.max)]

def IndexFigures.toJson (i : IndexFigures) : Json :=
  .object
    [("engine",.text i.engine),("index_name",.text i.name),
      ("size_bytes",.optional .nat i.sizeBytes),("build_time_ms",.optional .float i.buildMs)]

def Verdict.toJson : Verdict → Json
  | .ok => .object [("level",.text "ok")]
  | .warning r => .object [("level",.text "warning"),("ratio",.float r)]
  | .critical r => .object [("level",.text "critical"),("ratio",.float r)]

def Comparison.fields (c : Comparison) : List (String × Json) :=
  presentField "latency" Verdict.toJson c.latency ++
    presentField "latency_ratio" .float c.latencyRatio ++
    presentField "size" Verdict.toJson c.size ++ presentField "size_ratio" .float c.sizeRatio

def Comparison.toJson (c : Comparison) : Json := .object c.fields

def presentList (name : String) (values : List String) : List (String × Json) :=
  if values.isEmpty then [] else [(name,.array (values.map .text))]

def Measurement.toJsonWith (samples : List Json) (m : Measurement) : Json :=
  .object <|
    [("workload_id",.text m.workload),("query_id",.text m.query),("engine",.text m.engine),
      ("cache_mode",m.mode.toJson),("repeat",.nat m.repeats),("status",.text m.status.name),
      ("samples",.array samples)] ++
    presentField "summary" LatencySummary.toJson m.summary ++
    presentField "index" IndexFigures.toJson m.index ++
    presentList "annotations" m.annotations ++
    presentField "error" .text m.error ++
    presentField "regression" Comparison.toJson m.comparison

def Measurement.toJson (m : Measurement) : Json := m.toJsonWith (m.samples.map Sample.toJson)

def Outcome.fields (o : Outcome) : List (String × Json) :=
  [("workload_id",.text o.workload),("description",.text o.description),
    ("table",.text o.table),("status",.text o.status.name),("generated",.bool o.generated)] ++
  presentField "row_count" .nat o.rowCount ++ presentField "error" .text o.error

def Outcome.toJson (o : Outcome) : Json :=
  .object (o.fields ++ [("elapsed_secs",.float o.elapsedSeconds)])

def Budget.toJson (b : Budget) : Json :=
  .object
    [("limit_secs",.nat b.limitSeconds),("elapsed_secs",.float b.elapsedSeconds),
      ("exhausted",.bool b.exhausted)]

def EnginePair.toJson (e : EnginePair) : Json :=
  .object [("baseline",.text e.baseline),("candidate",.text e.candidate)]

def WorkloadAdvice.toJson (a : WorkloadAdvice) : Json :=
  .object <|
    [("workload_id",.text a.workload)] ++
    presentField "recommendation" (fun v => .text v.name) a.advice ++
    presentField "query_id" .text a.query ++
    presentField "cache_mode" CacheMode.toJson a.mode ++
    presentField "speedup" .float a.speedup ++
    presentField "compression" .float a.compression ++
    [("reason",.text a.reason)]

def StatusCounts.toJson (c : StatusCounts) : Json :=
  .object [("ok",.nat c.ok),("incomplete",.nat c.incomplete),("skipped",.nat c.skipped)]

def VerdictCounts.toJson (c : VerdictCounts) : Json :=
  .object
    [("ok",.nat c.ok),("warning",.nat c.warning),("critical",.nat c.critical),
      ("no_baseline",.nat c.noBaseline)]

def RunSummary.fields (s : RunSummary) : List (String × Json) :=
  [("results",s.results.toJson),("workloads_completed",.nat s.completed),
    ("workloads_skipped",.nat s.skipped),("verdicts",s.verdicts.toJson),
    ("budget_truncated",.bool s.truncated),
    ("recommendations",.array (s.advice.map WorkloadAdvice.toJson))]

def RunSummary.toJson (s : RunSummary) : Json := .object s.fields

def Artifact.toJson (a : Artifact) : Json :=
  .object
    [("run_id",.text a.id.hyphenated),("mode",.text a.mode.name),
      ("started_at",a.startedAt.toJson),("finished_at",a.finishedAt.toJson),
      ("environment",a.environment.toJson),("engines",a.engines.toJson),
      ("baseline_loaded",.bool a.baselineLoaded),("budget",a.budget.toJson),
      ("workloads",.array (a.outcomes.map Outcome.toJson)),
      ("results",.array (a.results.map Measurement.toJson)),("summary",a.summary.toJson)]

def Artifact.document (a : Artifact) : String := a.toJson.pretty

end IndexTrial
