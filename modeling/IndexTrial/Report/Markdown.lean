import IndexTrial.Report.Console
import IndexTrial.Text.Case

/-!
The Markdown report: one section for each workload, with a row for each candidate measurement
beside its partner on the baseline engine. Rows are data first and text second.
-/

namespace IndexTrial

/-- A candidate measurement beside the first baseline one of the same query and mode. -/
structure PairedRow where
  candidate : Measurement
  partner : Option Measurement
  deriving DecidableEq, Repr

namespace PairedRow

def baseP50 (r : PairedRow) : Option Binary64 := r.partner.bind (·.p50)

def candP50 (r : PairedRow) : Option Binary64 := r.candidate.p50

/-- How many times faster the candidate is, if it takes any time. -/
def speedup (r : PairedRow) : Option Binary64 :=
  match r.baseP50, r.candP50 with
  | some b, some c => if Binary64.zero.lt c then some (b.div c) else none
  | _, _ => none

def baseSize (r : PairedRow) : Option Nat := r.partner.bind (·.indexSize)

def candSize (r : PairedRow) : Option Nat := r.candidate.indexSize

/-- The common status, or both, the baseline's first. -/
def status (r : PairedRow) : String :=
  let base := r.partner.map (·.status)
  if base = some r.candidate.status then r.candidate.status.name
  else base.elim "-" Status.name ++ "/" ++ r.candidate.status.name

end PairedRow

/-- The rows of a workload, in the order of its candidate measurements. -/
def pairedRows (engines : EnginePair) (ms : List Measurement) (workload : String) :
    List PairedRow :=
  let ours := ms.filter fun m => m.workload == workload
  (ours.filter fun m => m.engine == engines.candidate).map fun c =>
    ⟨c,ours.find? fun b =>
      b.engine == engines.baseline && b.query == c.query && b.mode == c.mode⟩

namespace Markdown

def sizeText (size : Option Nat) : String :=
  size.elim "-" fun b => ((Binary64.ofNat b).div (.ofNat mebibyte)).fixedPlaces 1 ++ " MB"

def tableRow (cells : List String) : String := "| " ++ " | ".intercalate cells ++ " |"

def rowLine (r : PairedRow) : String :=
  tableRow
    [r.candidate.query,r.candidate.mode.name,Console.msText r.baseP50,
      Console.msText r.candP50,r.speedup.elim "-" fun s => s.fixedPlaces 2 ++ "x",
      sizeText r.baseSize,sizeText r.candSize,r.status]

def headLines (engines : EnginePair) : List String :=
  let b := engines.baseline
  let c := engines.candidate
  [tableRow ["query","mode",s!"{b} p50 ms",s!"{c} p50 ms","speedup",s!"{b} size",
      s!"{c} size","status"],
    "|---|---|---:|---:|---:|---:|---:|---|"]

def workloadSection (a : Artifact) (o : Outcome) : List String :=
  ["## " ++ o.workload,""] ++
  (if o.description.isEmpty then [] else [o.description,""]) ++
  (o.error.elim [] fun e => [s!"Skipped: {e}",""]) ++
  headLines a.engines ++
  (pairedRows a.engines a.results o.workload).map rowLine ++
  [""]

def adviceLine (engines : EnginePair) (a : WorkloadAdvice) : String :=
  let label := a.advice.elim "no recommendation" (·.label engines)
  s!"- **{a.workload}**: {label} ({a.reason})"

def lines (a : Artifact) : List String :=
  [s!"# {capitals a.engines.candidate} vs {capitals a.engines.baseline} Benchmark Results","",
    s!"- Run: `{a.id.hyphenated}`",s!"- Started: {a.startedAt.withOffset}",
    s!"- Tier: {a.environment.scale.name} ({a.environment.scaleName})"] ++
  (if a.budget.exhausted then
    [s!"- **Partial run**: budget of {a.budget.limitSeconds}s exhausted"] else []) ++
  [""] ++
  a.outcomes.flatMap (workloadSection a) ++
  ["## Recommendations",""] ++
  a.summary.advice.map (adviceLine a.engines)

def render (a : Artifact) : String := String.join ((lines a).map (· ++ "\n"))

end Markdown

end IndexTrial
