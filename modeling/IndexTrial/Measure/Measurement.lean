import IndexTrial.Measure.Latency
import IndexTrial.Measure.Query
import IndexTrial.Moment
import IndexTrial.Regression.Verdict

/-!
Measurements: everything known about one query under one cache mode on one engine. A recorder
collects the samples of a measurement; only a full sequence of samples gets a summary.
-/

namespace IndexTrial

structure Sample where
  workload : String
  query : String
  engine : String
  mode : CacheMode
  duration : Binary64
  recordedAt : Moment
  deriving DecidableEq, Repr

inductive Status
  | ok
  | incomplete
  | skipped
  deriving DecidableEq, Inhabited, Repr

def Status.name : Status → String
  | ok => "ok"
  | incomplete => "incomplete"
  | skipped => "skipped"

def Status.named : List (String × Status) :=
  [("ok",ok),("incomplete",incomplete),("skipped",skipped)]

theorem Status.named_name (s : Status) : Status.named.lookup s.name = some s := by
  cases s <;> rfl

structure IndexFigures where
  engine : String
  name : String
  sizeBytes : Option Nat
  buildMs : Option Binary64
  deriving DecidableEq, Repr

structure Measurement where
  workload : String
  query : String
  engine : String
  mode : CacheMode
  repeats : Nat
  status : Status
  samples : List Sample := []
  summary : Option LatencySummary := none
  index : Option IndexFigures := none
  annotations : List String := []
  error : Option String := none
  comparison : Option Comparison := none
  deriving DecidableEq, Repr

/-- What a baseline entry is found by. The cache mode belongs to it: a cold latency compares only
with a cold one. -/
structure BaselineKey where
  workload : String
  query : String
  mode : CacheMode
  deriving DecidableEq, Repr

namespace Measurement

def unmeasured (workload : String) (query : String) (engine : String) (mode : CacheMode)
    (repeats : Nat) (reason : String) : Measurement :=
  { workload, query, engine, mode, repeats, status := .skipped, error := some reason }

def isComplete (m : Measurement) : Bool := m.status == .ok

def p50 (m : Measurement) : Option Binary64 := m.summary.map (·.p50)

def indexSize (m : Measurement) : Option Nat := m.index.bind (·.sizeBytes)

def key (m : Measurement) : BaselineKey := ⟨m.workload,m.query,m.mode⟩

end Measurement

structure Recorder where
  workload : String
  query : String
  engine : String
  mode : CacheMode
  expected : Nat
  samples : List Sample := []
  annotations : List String := []
  deriving DecidableEq, Repr

namespace Recorder

def start (workload query engine : String) (mode : CacheMode) (expected : Nat) : Recorder :=
  { workload, query, engine, mode, expected := max expected 1 }

def record (r : Recorder) (duration : Binary64) (time : Moment) : Recorder :=
  { r with samples := r.samples ++ [⟨r.workload,r.query,r.engine,r.mode,duration,time⟩] }

def annotate (r : Recorder) (notes : List String) : Recorder :=
  { r with annotations := addNotes r.annotations notes }

def durations (r : Recorder) : List Binary64 := r.samples.map (·.duration)

def conclude (r : Recorder) (status : Status) (error : Option String) : Measurement :=
  { workload := r.workload, query := r.query, engine := r.engine, mode := r.mode
    repeats := r.expected, status, samples := r.samples
    summary := if status = .ok then LatencySummary.ofDurations r.durations else none
    annotations := r.annotations, error }

def finish (r : Recorder) : Measurement :=
  if r.samples.length < r.expected then
    r.conclude .incomplete
      (some s!"collected {r.samples.length} of {r.expected} samples")
  else r.conclude .ok none

def fail (r : Recorder) (e : Fault) : Measurement := r.conclude .incomplete (some e.message)

end Recorder

end IndexTrial
