import IndexTrial.Proofs.Document.Omission
import IndexTrial.Proofs.Json.Records
import IndexTrial.Proofs.Run.Identity
import IndexTrial.Proofs.Time.Written

/-!
An artifact is read back from its file, field by field. Its numbers must fit the words that hold
them, its doubles be finite and its moments valid.
-/

namespace IndexTrial

open Json

theorem kept_moment {m : Moment} (h : m.Valid) : Kept Moment.toJson Moment.ofJson? m :=
  ⟨by simp [Moment.ofJson?,Moment.toJson,asText?,h.read?_zulu],by simp [Moment.toJson]⟩

theorem kept_mode (m : CacheMode) : Kept CacheMode.toJson CacheMode.ofJson? m :=
  kept_constant m.named_name

namespace LatencySummary

variable {s : LatencySummary}

structure Storable (s : LatencySummary) : Prop where
  samples : s.samples < 2 ^ 64
  p50 : s.p50.isFinite = true
  p95 : s.p95.isFinite = true
  p99 : ∀ x ∈ s.p99, x.isFinite = true
  mean : s.mean.isFinite = true
  min : s.min.isFinite = true
  max : s.max.isFinite = true

def slots (s : LatencySummary) : List (String × Option Json) :=
  [("samples",some (.nat s.samples)),("p50_ms",some (.float s.p50)),
    ("p95_ms",some (.float s.p95)),("p99_ms",s.p99.map .float),("mean_ms",some (.float s.mean)),
    ("min_ms",some (.float s.min)),("max_ms",some (.float s.max))]

theorem toJson_eq (s : LatencySummary) : s.toJson = .object (presentFields s.slots) := by
  simp [toJson,slots]

theorem Storable.writable (h : s.Storable) : Writable s.toJson := by
  rw [toJson_eq]
  refine writable_present ?_
  simpa [slots] using ⟨h.samples,h.p50,h.p95,h.p99,h.mean,h.min,h.max⟩

theorem Storable.kept (h : s.Storable) : Kept toJson ofJson? s := by
  refine ⟨?_,by simp [toJson]⟩
  rw [toJson_eq,ofJson?]
  refine record_step (by decide) rfl ?_
  refine required_step (kept_nat h.samples) rfl ?_
  refine required_step (kept_float h.p50) rfl ?_
  refine required_step (kept_float h.p95) rfl ?_
  refine optional_step (fun x hx => kept_float (h.p99 x hx)) rfl ?_
  refine required_step (kept_float h.mean) rfl ?_
  refine required_step (kept_float h.min) rfl ?_
  exact required_step (kept_float h.max) rfl rfl

end LatencySummary

namespace Sample

variable {s : Sample}

structure Storable (s : Sample) : Prop where
  duration : s.duration.isFinite = true
  recordedAt : s.recordedAt.Valid

def slots (s : Sample) : List (String × Option Json) :=
  [("workload_id",some (.text s.workload)),("query_id",some (.text s.query)),
    ("engine",some (.text s.engine)),("cache_mode",some s.mode.toJson),
    ("duration_ms",some (.float s.duration)),("recorded_at",some s.recordedAt.toJson)]

theorem toJson_eq (s : Sample) : s.toJson = .object (presentFields s.slots) := by
  simp [toJson,slots]

theorem Storable.writable (h : s.Storable) : Writable s.toJson := by
  rw [toJson_eq]
  refine writable_present ?_
  simpa [slots,CacheMode.toJson,Moment.toJson] using h.duration

theorem Storable.kept (h : s.Storable) : Kept toJson ofJson? s := by
  refine ⟨?_,by simp [toJson]⟩
  rw [toJson_eq,ofJson?]
  refine record_step (by decide) rfl ?_
  refine required_step (kept_text s.workload) rfl ?_
  refine required_step (kept_text s.query) rfl ?_
  refine required_step (kept_text s.engine) rfl ?_
  refine required_step (kept_mode s.mode) rfl ?_
  refine required_step (kept_float h.duration) rfl ?_
  exact required_step (kept_moment h.recordedAt) rfl rfl

end Sample

namespace IndexFigures

variable {i : IndexFigures}

structure Storable (i : IndexFigures) : Prop where
  sizeBytes : ∀ n ∈ i.sizeBytes, n < 2 ^ 64
  buildMs : ∀ x ∈ i.buildMs, x.isFinite = true

def slots (i : IndexFigures) : List (String × Option Json) :=
  [("engine",some (.text i.engine)),("index_name",some (.text i.name)),
    ("size_bytes",some (.optional .nat i.sizeBytes)),
    ("build_time_ms",some (.optional .float i.buildMs))]

theorem toJson_eq (i : IndexFigures) : i.toJson = .object (presentFields i.slots) := by
  simp [toJson,slots]

theorem Storable.writable (h : i.Storable) : Writable i.toJson := by
  rw [toJson_eq]
  refine writable_present ?_
  simpa [slots] using ⟨h.sizeBytes,h.buildMs⟩

theorem Storable.kept (h : i.Storable) : Kept toJson ofJson? i := by
  refine ⟨?_,by simp [toJson]⟩
  rw [toJson_eq,ofJson?]
  refine record_step (by decide) rfl ?_
  refine required_step (kept_text i.engine) rfl ?_
  refine required_step (kept_text i.name) rfl ?_
  refine nullable_step (fun n hn => kept_nat (h.sizeBytes n hn)) rfl ?_
  exact nullable_step (fun x hx => kept_float (h.buildMs x hx)) rfl rfl

end IndexFigures

namespace Verdict

variable {v : Verdict}

/-- The ratio of a verdict that has one is finite. -/
def Storable : Verdict → Prop
  | .ok => True
  | .warning r => r.isFinite = true
  | .critical r => r.isFinite = true

theorem Storable.writable (h : v.Storable) : Writable v.toJson := by
  cases v with
  | ok => exact .object (by simp)
  | warning r => exact .object (by simpa [Storable] using h)
  | critical r => exact .object (by simpa [Storable] using h)

theorem Storable.kept (h : v.Storable) : Kept toJson ofJson? v := by
  cases v with
  | ok => exact ⟨rfl,by simp [toJson]⟩
  | warning r =>
    have hr : r.isFinite = true := h
    refine ⟨?_,by simp [toJson]⟩
    simp [toJson,ofJson?,uniqueField?,asText?,asBinary64?,ofLevel?,fieldsSound,isSound,hr]
  | critical r =>
    have hr : r.isFinite = true := h
    refine ⟨?_,by simp [toJson]⟩
    simp [toJson,ofJson?,uniqueField?,asText?,asBinary64?,ofLevel?,fieldsSound,isSound,hr]

end Verdict

namespace Comparison

variable {c : Comparison}

structure Storable (c : Comparison) : Prop where
  latency : ∀ v ∈ c.latency, v.Storable
  latencyRatio : ∀ x ∈ c.latencyRatio, x.isFinite = true
  size : ∀ v ∈ c.size, v.Storable
  sizeRatio : ∀ x ∈ c.sizeRatio, x.isFinite = true

def slots (c : Comparison) : List (String × Option Json) :=
  [("latency",c.latency.map Verdict.toJson),("latency_ratio",c.latencyRatio.map .float),
    ("size",c.size.map Verdict.toJson),("size_ratio",c.sizeRatio.map .float)]

theorem toJson_eq (c : Comparison) : c.toJson = .object (presentFields c.slots) := by
  simp [toJson,fields,slots]

theorem Storable.writable (h : c.Storable) : Writable c.toJson := by
  rw [toJson_eq]
  refine writable_present ?_
  simpa [slots] using ⟨fun v hv => (h.latency v hv).writable,h.latencyRatio,
    fun v hv => (h.size v hv).writable,h.sizeRatio⟩

theorem Storable.kept (h : c.Storable) : Kept toJson ofJson? c := by
  refine ⟨?_,by simp [toJson]⟩
  rw [toJson_eq,ofJson?]
  refine record_step (by decide) rfl ?_
  refine optional_step (fun v hv => (h.latency v hv).kept) rfl ?_
  refine optional_step (fun x hx => kept_float (h.latencyRatio x hx)) rfl ?_
  refine optional_step (fun v hv => (h.size v hv).kept) rfl ?_
  exact optional_step (fun x hx => kept_float (h.sizeRatio x hx)) rfl rfl

end Comparison

namespace Measurement

variable {m : Measurement}

structure Storable (m : Measurement) : Prop where
  repeats : m.repeats < 2 ^ 32
  samples : ∀ s ∈ m.samples, s.Storable
  summary : ∀ s ∈ m.summary, s.Storable
  index : ∀ i ∈ m.index, i.Storable
  comparison : ∀ c ∈ m.comparison, c.Storable

def slots (m : Measurement) : List (String × Option Json) :=
  [("workload_id",some (.text m.workload)),("query_id",some (.text m.query)),
    ("engine",some (.text m.engine)),("cache_mode",some m.mode.toJson),
    ("repeat",some (.nat m.repeats)),("status",some (.text m.status.name)),
    ("samples",some (.array (m.samples.map Sample.toJson))),
    ("summary",m.summary.map LatencySummary.toJson),("index",m.index.map IndexFigures.toJson),
    ("annotations",(unlessEmpty m.annotations).map fun vs => .array (vs.map .text)),
    ("error",m.error.map .text),("regression",m.comparison.map Comparison.toJson)]

theorem toJson_eq (m : Measurement) : m.toJson = .object (presentFields m.slots) := by
  simp [toJson,toJsonWith,slots]

theorem Storable.writable (h : m.Storable) : Writable m.toJson := by
  have hrepeats : m.repeats < 2 ^ 64 := h.repeats.trans (by decide)
  rw [toJson_eq]
  refine writable_present ?_
  simpa [slots,CacheMode.toJson] using ⟨hrepeats,fun s hs => (h.samples s hs).writable,
    fun s hs => (h.summary s hs).writable,fun i hi => (h.index i hi).writable,
    fun c hc => (h.comparison c hc).writable⟩

theorem Storable.kept (h : m.Storable) : Kept toJson ofJson? m := by
  refine ⟨?_,by simp [toJson,toJsonWith]⟩
  rw [toJson_eq,ofJson?]
  refine record_step (by decide) rfl ?_
  refine required_step (kept_text m.workload) rfl ?_
  refine required_step (kept_text m.query) rfl ?_
  refine required_step (kept_text m.engine) rfl ?_
  refine required_step (kept_mode m.mode) rfl ?_
  refine required_step (kept_nat h.repeats) rfl ?_
  refine required_step (kept_constant m.status.named_name) rfl ?_
  refine required_step (kept_list fun s hs => (h.samples s hs).kept) rfl ?_
  refine optional_step (fun s hs => (h.summary s hs).kept) rfl ?_
  refine optional_step (fun i hi => (h.index i hi).kept) rfl ?_
  refine list_step rfl ?_
  refine optional_step (fun s _ => kept_text s) rfl ?_
  exact optional_step (fun c hc => (h.comparison c hc).kept) rfl rfl

end Measurement

namespace Outcome

variable {o : Outcome}

structure Storable (o : Outcome) : Prop where
  rowCount : ∀ n ∈ o.rowCount, n < 2 ^ 64
  elapsedSeconds : o.elapsedSeconds.isFinite = true

def slots (o : Outcome) : List (String × Option Json) :=
  [("workload_id",some (.text o.workload)),("description",some (.text o.description)),
    ("table",some (.text o.table)),("status",some (.text o.status.name)),
    ("generated",some (.bool o.generated)),("row_count",o.rowCount.map .nat),
    ("error",o.error.map .text),("elapsed_secs",some (.float o.elapsedSeconds))]

theorem toJson_eq (o : Outcome) : o.toJson = .object (presentFields o.slots) := by
  simp [toJson,fields,slots]

theorem Storable.writable (h : o.Storable) : Writable o.toJson := by
  rw [toJson_eq]
  refine writable_present ?_
  simpa [slots] using ⟨h.rowCount,h.elapsedSeconds⟩

theorem Storable.kept (h : o.Storable) : Kept toJson ofJson? o := by
  refine ⟨?_,by simp [toJson]⟩
  rw [toJson_eq,ofJson?]
  refine record_step (by decide) rfl ?_
  refine required_step (kept_text o.workload) rfl ?_
  refine required_step (kept_text o.description) rfl ?_
  refine required_step (kept_text o.table) rfl ?_
  refine required_step (kept_constant o.status.named_name) rfl ?_
  refine required_step (kept_bool o.generated) rfl ?_
  refine optional_step (fun n hn => kept_nat (h.rowCount n hn)) rfl ?_
  refine optional_step (fun s _ => kept_text s) rfl ?_
  exact required_step (kept_float h.elapsedSeconds) rfl rfl

end Outcome

namespace Budget

variable {b : Budget}

structure Storable (b : Budget) : Prop where
  limitSeconds : b.limitSeconds < 2 ^ 64
  elapsedSeconds : b.elapsedSeconds.isFinite = true

def slots (b : Budget) : List (String × Option Json) :=
  [("limit_secs",some (.nat b.limitSeconds)),("elapsed_secs",some (.float b.elapsedSeconds)),
    ("exhausted",some (.bool b.exhausted))]

theorem toJson_eq (b : Budget) : b.toJson = .object (presentFields b.slots) := by
  simp [toJson,slots]

theorem Storable.writable (h : b.Storable) : Writable b.toJson := by
  rw [toJson_eq]
  refine writable_present ?_
  simpa [slots] using ⟨h.limitSeconds,h.elapsedSeconds⟩

theorem Storable.kept (h : b.Storable) : Kept toJson ofJson? b := by
  refine ⟨?_,by simp [toJson]⟩
  rw [toJson_eq,ofJson?]
  refine record_step (by decide) rfl ?_
  refine required_step (kept_nat h.limitSeconds) rfl ?_
  refine required_step (kept_float h.elapsedSeconds) rfl ?_
  exact required_step (kept_bool b.exhausted) rfl rfl

end Budget

namespace EnginePair

def slots (e : EnginePair) : List (String × Option Json) :=
  [("baseline",some (.text e.baseline)),("candidate",some (.text e.candidate))]

theorem toJson_eq (e : EnginePair) : e.toJson = .object (presentFields e.slots) := by
  simp [toJson,slots]

theorem writable (e : EnginePair) : Writable e.toJson := by
  rw [toJson_eq]
  refine writable_present ?_
  simp [slots]

theorem kept (e : EnginePair) : Kept toJson ofJson? e := by
  refine ⟨?_,by simp [toJson]⟩
  rw [toJson_eq,ofJson?]
  refine record_step (by decide) rfl ?_
  refine required_step (kept_text e.baseline) rfl ?_
  exact required_step (kept_text e.candidate) rfl rfl

end EnginePair

namespace WorkloadAdvice

variable {a : WorkloadAdvice}

structure Storable (a : WorkloadAdvice) : Prop where
  speedup : ∀ x ∈ a.speedup, x.isFinite = true
  compression : ∀ x ∈ a.compression, x.isFinite = true

def slots (a : WorkloadAdvice) : List (String × Option Json) :=
  [("workload_id",some (.text a.workload)),("recommendation",a.advice.map fun v => .text v.name),
    ("query_id",a.query.map .text),("cache_mode",a.mode.map CacheMode.toJson),
    ("speedup",a.speedup.map .float),("compression",a.compression.map .float),
    ("reason",some (.text a.reason))]

theorem toJson_eq (a : WorkloadAdvice) : a.toJson = .object (presentFields a.slots) := by
  simp [toJson,slots]

theorem Storable.writable (h : a.Storable) : Writable a.toJson := by
  rw [toJson_eq]
  refine writable_present ?_
  simpa [slots,CacheMode.toJson] using ⟨h.speedup,h.compression⟩

theorem Storable.kept (h : a.Storable) : Kept toJson ofJson? a := by
  refine ⟨?_,by simp [toJson]⟩
  rw [toJson_eq,ofJson?]
  refine record_step (by decide) rfl ?_
  refine required_step (kept_text a.workload) rfl ?_
  refine optional_step (fun v _ => kept_constant v.named_name) rfl ?_
  refine optional_step (fun s _ => kept_text s) rfl ?_
  refine optional_step (fun m _ => kept_mode m) rfl ?_
  refine optional_step (fun x hx => kept_float (h.speedup x hx)) rfl ?_
  refine optional_step (fun x hx => kept_float (h.compression x hx)) rfl ?_
  exact required_step (kept_text a.reason) rfl rfl

end WorkloadAdvice

namespace StatusCounts

variable {c : StatusCounts}

structure Storable (c : StatusCounts) : Prop where
  ok : c.ok < 2 ^ 64
  incomplete : c.incomplete < 2 ^ 64
  skipped : c.skipped < 2 ^ 64

def slots (c : StatusCounts) : List (String × Option Json) :=
  [("ok",some (.nat c.ok)),("incomplete",some (.nat c.incomplete)),
    ("skipped",some (.nat c.skipped))]

theorem toJson_eq (c : StatusCounts) : c.toJson = .object (presentFields c.slots) := by
  simp [toJson,slots]

theorem Storable.writable (h : c.Storable) : Writable c.toJson := by
  rw [toJson_eq]
  refine writable_present ?_
  simpa [slots] using ⟨h.ok,h.incomplete,h.skipped⟩

theorem Storable.kept (h : c.Storable) : Kept toJson ofJson? c := by
  refine ⟨?_,by simp [toJson]⟩
  rw [toJson_eq,ofJson?]
  refine record_step (by decide) rfl ?_
  refine required_step (kept_nat h.ok) rfl ?_
  refine required_step (kept_nat h.incomplete) rfl ?_
  exact required_step (kept_nat h.skipped) rfl rfl

end StatusCounts

namespace VerdictCounts

variable {c : VerdictCounts}

structure Storable (c : VerdictCounts) : Prop where
  ok : c.ok < 2 ^ 64
  warning : c.warning < 2 ^ 64
  critical : c.critical < 2 ^ 64
  noBaseline : c.noBaseline < 2 ^ 64

def slots (c : VerdictCounts) : List (String × Option Json) :=
  [("ok",some (.nat c.ok)),("warning",some (.nat c.warning)),("critical",some (.nat c.critical)),
    ("no_baseline",some (.nat c.noBaseline))]

theorem toJson_eq (c : VerdictCounts) : c.toJson = .object (presentFields c.slots) := by
  simp [toJson,slots]

theorem Storable.writable (h : c.Storable) : Writable c.toJson := by
  rw [toJson_eq]
  refine writable_present ?_
  simpa [slots] using ⟨h.ok,h.warning,h.critical,h.noBaseline⟩

theorem Storable.kept (h : c.Storable) : Kept toJson ofJson? c := by
  refine ⟨?_,by simp [toJson]⟩
  rw [toJson_eq,ofJson?]
  refine record_step (by decide) rfl ?_
  refine required_step (kept_nat h.ok) rfl ?_
  refine required_step (kept_nat h.warning) rfl ?_
  refine required_step (kept_nat h.critical) rfl ?_
  exact required_step (kept_nat h.noBaseline) rfl rfl

end VerdictCounts

namespace RunSummary

variable {s : RunSummary}

structure Storable (s : RunSummary) : Prop where
  results : s.results.Storable
  completed : s.completed < 2 ^ 64
  skipped : s.skipped < 2 ^ 64
  verdicts : s.verdicts.Storable
  advice : ∀ a ∈ s.advice, a.Storable

def slots (s : RunSummary) : List (String × Option Json) :=
  [("results",some s.results.toJson),("workloads_completed",some (.nat s.completed)),
    ("workloads_skipped",some (.nat s.skipped)),("verdicts",some s.verdicts.toJson),
    ("budget_truncated",some (.bool s.truncated)),
    ("recommendations",some (.array (s.advice.map WorkloadAdvice.toJson)))]

theorem toJson_eq (s : RunSummary) : s.toJson = .object (presentFields s.slots) := by
  simp [toJson,fields,slots]

theorem Storable.writable (h : s.Storable) : Writable s.toJson := by
  rw [toJson_eq]
  refine writable_present ?_
  simpa [slots] using ⟨h.results.writable,h.completed,h.skipped,h.verdicts.writable,
    fun a ha => (h.advice a ha).writable⟩

theorem Storable.kept (h : s.Storable) : Kept toJson ofJson? s := by
  refine ⟨?_,by simp [toJson]⟩
  rw [toJson_eq,ofJson?]
  refine record_step (by decide) rfl ?_
  refine required_step h.results.kept rfl ?_
  refine required_step (kept_nat h.completed) rfl ?_
  refine required_step (kept_nat h.skipped) rfl ?_
  refine required_step h.verdicts.kept rfl ?_
  refine required_step (kept_bool s.truncated) rfl ?_
  exact required_step (kept_list fun a ha => (h.advice a ha).kept) rfl rfl

end RunSummary

namespace Environment

variable {e : Environment}

structure Storable (e : Environment) : Prop where
  capacityBytes : ∀ n ∈ e.capacityBytes, n < 2 ^ 64
  rowCounts : ∀ n ∈ e.rowCounts, n < 2 ^ 64
  timeoutSeconds : e.timeoutSeconds < 2 ^ 64
  maxParallelWorkers : ∀ n ∈ e.maxParallelWorkers, n < 2 ^ 32

def slots (e : Environment) : List (String × Option Json) :=
  [("tier",some (.text e.scale.name)),("tier_name",some (.text e.scaleName)),
    ("capacity_bytes",some (.optional .nat e.capacityBytes)),
    ("row_counts",some (.array (e.rowCounts.map .nat))),
    ("timeout_secs",some (.nat e.timeoutSeconds)),
    ("server_version",some (.optional .text e.serverVersion)),
    ("max_parallel_workers",some (.optional .nat e.maxParallelWorkers)),
    ("annotations",some (.array (e.annotations.map .text)))]

theorem toJson_eq (e : Environment) : e.toJson = .object (presentFields e.slots) := by
  simp [toJson,slots]

theorem Storable.writable (h : e.Storable) : Writable e.toJson := by
  have hworkers : ∀ n ∈ e.maxParallelWorkers, n < 2 ^ 64 :=
    fun n hn => (h.maxParallelWorkers n hn).trans (by decide)
  rw [toJson_eq]
  refine writable_present ?_
  simpa [slots] using ⟨h.capacityBytes,h.rowCounts,h.timeoutSeconds,hworkers⟩

theorem Storable.kept (h : e.Storable) : Kept toJson ofJson? e := by
  refine ⟨?_,by simp [toJson]⟩
  rw [toJson_eq,ofJson?]
  refine record_step (by decide) rfl ?_
  refine required_step (kept_constant e.scale.named_name) rfl ?_
  refine required_step (kept_text e.scaleName) rfl ?_
  refine nullable_step (fun n hn => kept_nat (h.capacityBytes n hn)) rfl ?_
  refine required_step (kept_list fun n hn => kept_nat (h.rowCounts n hn)) rfl ?_
  refine required_step (kept_nat h.timeoutSeconds) rfl ?_
  refine nullable_step (fun s _ => kept_text s) rfl ?_
  refine nullable_step (fun n hn => kept_nat (h.maxParallelWorkers n hn)) rfl ?_
  exact required_step (kept_list fun s _ => kept_text s) rfl rfl

end Environment

namespace Artifact

variable {a : Artifact}

/-- What every artifact of a run satisfies whose doubles are finite. -/
structure Storable (a : Artifact) : Prop where
  id : a.id.value < 2 ^ 128
  startedAt : a.startedAt.Valid
  finishedAt : a.finishedAt.Valid
  environment : a.environment.Storable
  budget : a.budget.Storable
  outcomes : ∀ o ∈ a.outcomes, o.Storable
  results : ∀ m ∈ a.results, m.Storable
  summary : a.summary.Storable

def slots (a : Artifact) : List (String × Option Json) :=
  [("run_id",some (.text a.id.hyphenated)),("mode",some (.text a.mode.name)),
    ("started_at",some a.startedAt.toJson),("finished_at",some a.finishedAt.toJson),
    ("environment",some a.environment.toJson),("engines",some a.engines.toJson),
    ("baseline_loaded",some (.bool a.baselineLoaded)),("budget",some a.budget.toJson),
    ("workloads",some (.array (a.outcomes.map Outcome.toJson))),
    ("results",some (.array (a.results.map Measurement.toJson))),
    ("summary",some a.summary.toJson)]

theorem toJson_eq (a : Artifact) : a.toJson = .object (presentFields a.slots) := by
  simp [toJson,slots]

theorem Storable.writable (h : a.Storable) : Writable a.toJson := by
  rw [toJson_eq]
  refine writable_present ?_
  simpa [slots,Moment.toJson] using ⟨h.environment.writable,a.engines.writable,h.budget.writable,
    fun o ho => (h.outcomes o ho).writable,fun m hm => (h.results m hm).writable,
    h.summary.writable⟩

theorem kept_id {id : RunId} (h : id.value < 2 ^ 128) :
    Kept (fun id => .text (RunId.hyphenated id)) RunId.ofJson? id :=
  ⟨by simp [RunId.ofJson?,asText?,RunId.read?_hyphenated h],by simp⟩

theorem Storable.kept (h : a.Storable) : Kept toJson ofJson? a := by
  refine ⟨?_,by simp [toJson]⟩
  rw [toJson_eq,ofJson?]
  refine record_step (by decide) rfl ?_
  refine required_step (kept_id h.id) rfl ?_
  refine required_step (kept_constant a.mode.named_name) rfl ?_
  refine required_step (kept_moment h.startedAt) rfl ?_
  refine required_step (kept_moment h.finishedAt) rfl ?_
  refine required_step h.environment.kept rfl ?_
  refine required_step a.engines.kept rfl ?_
  refine required_step (kept_bool a.baselineLoaded) rfl ?_
  refine required_step h.budget.kept rfl ?_
  refine required_step (kept_list fun o ho => (h.outcomes o ho).kept) rfl ?_
  refine required_step (kept_list fun m hm => (h.results m hm).kept) rfl ?_
  exact required_step h.summary.kept rfl rfl

/-- The file of an artifact is read back as the artifact. -/
theorem Storable.ofDocument?_document (h : a.Storable) : ofDocument? a.document = some a := by
  rw [ofDocument?,document,h.writable.read?_pretty,Option.bind_some,h.kept.read]

end Artifact

/-! ### Sizes of indexes -/

theorem IndexFigures.sizeBytes_lt {j : Json} {i : IndexFigures} (h : ofJson? j = some i) :
    ∀ n ∈ i.sizeBytes, n < 2 ^ 64 := by
  unfold ofJson? at h
  iterate 3 obtain ⟨_,-,h⟩ := Option.bind_eq_some_iff.mp h
  obtain ⟨size,hsize,h⟩ := Option.bind_eq_some_iff.mp h
  obtain ⟨_,-,heq⟩ := Option.bind_eq_some_iff.mp h
  cases heq
  rintro n rfl
  obtain ⟨j,hj⟩ := Json.exists_of_nullable hsize
  exact Json.lt_of_asUnsigned? hj

theorem Measurement.indexSize_lt {j : Json} {m : Measurement} (h : ofJson? j = some m) :
    ∀ n ∈ m.indexSize, n < 2 ^ 64 := by
  intro n hn
  obtain ⟨i,hi,hsize⟩ := Option.bind_eq_some_iff.mp hn
  obtain ⟨r,-,hm⟩ := ofJson?_eq_some_iff.mp h
  obtain ⟨j,hj⟩ := Json.exists_of_optional (hm.index.trans (congrArg some hi))
  exact IndexFigures.sizeBytes_lt hj n hsize

/-- The sizes in an artifact that was read are words. -/
theorem Artifact.indexSize_lt {text : String} {a : Artifact} (h : ofDocument? text = some a) :
    ∀ m ∈ a.results, ∀ n ∈ m.indexSize, n < 2 ^ 64 := by
  obtain ⟨j,-,h⟩ := Option.bind_eq_some_iff.mp h
  unfold ofJson? at h
  -- The record and nine fields stand before the results, the summary after them.
  iterate 10 obtain ⟨_,-,h⟩ := Option.bind_eq_some_iff.mp h
  obtain ⟨results,hresults,h⟩ := Option.bind_eq_some_iff.mp h
  obtain ⟨_,-,heq⟩ := Option.bind_eq_some_iff.mp h
  cases heq
  intro m hm
  obtain ⟨j,hj⟩ := Json.exists_of_required hresults
  obtain ⟨j,hj⟩ := Json.exists_of_asList? hj m hm
  exact Measurement.indexSize_lt hj

end IndexTrial
