import IndexTrial.Measure.Measurement
import IndexTrial.Text.Search

/-!
Baselines: accepted values of the candidate engine, one entry for each workload, query and cache
mode, in the order of their keys; and the comparison of measurements with them.
-/

namespace IndexTrial

/-- Keys are ordered by workload, then query, then mode. -/
def BaselineKey.compare (a b : BaselineKey) : Ordering :=
  (compareOfLessAndEq a.workload b.workload).then
    ((compareOfLessAndEq a.query b.query).then (compareOfLessAndEq a.mode.rank b.mode.rank))

structure BaselineEntry where
  p50 : Binary64
  indexBytes : Nat
  deriving DecidableEq, Repr

abbrev BaselineEntries := List (BaselineKey × BaselineEntry)

namespace BaselineEntries

def find? (es : BaselineEntries) (k : BaselineKey) : Option BaselineEntry := es.lookup k

def insert (k : BaselineKey) (e : BaselineEntry) : BaselineEntries → BaselineEntries
  | [] => [(k,e)]
  | (k',e') :: es =>
    match k.compare k' with
    | .lt => (k,e) :: (k',e') :: es
    | .eq => (k,e) :: es
    | .gt => (k',e') :: insert k e es

/-- The last entry of a key wins. -/
def ofList (entries : List (BaselineKey × BaselineEntry)) : BaselineEntries :=
  entries.foldl (fun es (k,e) => insert k e es) []

/-- The first entry of a key wins. -/
def insertNew (es : BaselineEntries) (k : BaselineKey) (e : BaselineEntry) : BaselineEntries :=
  if (es.find? k).isSome then es else insert k e es

end BaselineEntries

structure Baseline where
  engine : String
  createdAt : Option Moment
  entries : BaselineEntries
  deriving DecidableEq, Repr

namespace Baseline

def ofEntries (engine : String) (entries : List (BaselineKey × BaselineEntry)) : Baseline :=
  ⟨engine,none,.ofList entries⟩

def find? (b : Baseline) (k : BaselineKey) : Option BaselineEntry := b.entries.find? k

def size (b : Baseline) : Nat := b.entries.length

def isEmpty (b : Baseline) : Bool := b.entries.isEmpty

/-- The entry that a complete measurement of an engine gives; an unknown size counts as zero. -/
def entryOf? (engine : String) (m : Measurement) : Option (BaselineKey × BaselineEntry) :=
  if m.engine = engine ∧ m.status = .ok then
    m.summary.map fun s => (m.key,⟨s.p50,m.indexSize.getD 0⟩)
  else none

/-- The complete measurements of an engine; of several with one key the first. -/
def ofMeasurements (engine : String) (ms : List Measurement) : Baseline :=
  ⟨engine,none,(ms.filterMap (entryOf? engine)).foldl (fun es (k,e) => es.insertNew k e) []⟩

end Baseline

/-- Compares the measurements of one engine with a baseline. -/
structure Detector where
  baseline : Option Baseline
  thresholds : Thresholds
  engine : String
  deriving DecidableEq, Repr

namespace Detector

def hasBaseline (d : Detector) : Bool := d.baseline.isSome

/-- The ratio of a latency to a positive baseline latency. -/
def latencyRatio? (current : Binary64) (e : BaselineEntry) : Option Binary64 :=
  if Binary64.zero.lt e.p50 then some (current.div e.p50) else none

/-- The ratio of a known size to a positive baseline size. -/
def sizeRatio? (current : Option Nat) (e : BaselineEntry) : Option Binary64 :=
  match current with
  | some bytes =>
    if 0 < e.indexBytes then some ((Binary64.ofNat bytes).div (.ofNat e.indexBytes)) else none
  | none => none

/-- The comparison with an entry, unless neither metric has a usable value. -/
def compare? (t : Thresholds) (s : LatencySummary) (size : Option Nat) (e : BaselineEntry) :
    Option Comparison :=
  let latency := latencyRatio? s.p50 e
  let size := sizeRatio? size e
  if latency.isNone && size.isNone then none
  else some
    { latency := latency.map t.latencyVerdict, latencyRatio := latency
      size := size.map t.sizeVerdict, sizeRatio := size }

def check (d : Detector) (m : Measurement) : Option Comparison :=
  if m.engine ≠ d.engine ∨ m.status ≠ .ok then none
  else do
    let s ← m.summary
    let b ← d.baseline
    let e ← b.find? m.key
    compare? d.thresholds s m.indexSize e

/-- Sets the comparison of every measurement; without a baseline all stay as they are. -/
def attach (d : Detector) (ms : List Measurement) : List Measurement :=
  if d.hasBaseline then ms.map fun m => { m with comparison := d.check m } else ms

theorem length_attach (d : Detector) (ms : List Measurement) :
    (d.attach ms).length = ms.length := by
  unfold attach
  split <;> simp

end Detector

end IndexTrial
