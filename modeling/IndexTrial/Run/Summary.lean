import IndexTrial.Advice.Recommend

/-!
The summary of a run: every measurement is counted once by its status, every verdict by its
severity, and every completed workload gets one advice.
-/

namespace IndexTrial

structure StatusCounts where
  ok : Nat := 0
  incomplete : Nat := 0
  skipped : Nat := 0
  deriving DecidableEq, Repr

structure VerdictCounts where
  ok : Nat := 0
  warning : Nat := 0
  critical : Nat := 0
  /-- Complete candidate measurements with nothing to compare them with. -/
  noBaseline : Nat := 0
  deriving DecidableEq, Repr

structure RunSummary where
  results : StatusCounts
  completed : Nat
  skipped : Nat
  verdicts : VerdictCounts
  truncated : Bool
  advice : List WorkloadAdvice
  deriving DecidableEq, Repr

namespace RunSummary

def hasRegressions (s : RunSummary) : Bool := 0 < s.verdicts.warning || 0 < s.verdicts.critical

def countStatus (ms : List Measurement) (s : Status) : Nat := ms.countP fun m => m.status == s

/-- Measurements whose comparison is of a severity. -/
def countSeverity (ms : List Measurement) (severity : Nat) : Nat :=
  ms.countP fun m => m.comparison.any fun c => c.worst.severity == severity

def countUncompared (candidate : String) (ms : List Measurement) : Nat :=
  ms.countP fun m => m.comparison.isNone && m.engine == candidate && m.isComplete

def ofRun (t : AdviceThresholds) (engines : EnginePair) (truncated : Bool)
    (outcomes : List Outcome) (ms : List Measurement) : RunSummary where
  results := ⟨countStatus ms .ok,countStatus ms .incomplete,countStatus ms .skipped⟩
  completed := outcomes.countP fun o => o.status == .completed
  skipped := outcomes.countP fun o => o.status == .skipped
  verdicts :=
    ⟨countSeverity ms 0,countSeverity ms 1,countSeverity ms 2,
      countUncompared engines.candidate ms⟩
  truncated
  advice := (outcomes.filter fun o => o.status == .completed).map fun o =>
    recommend t engines ms o.workload

end RunSummary

end IndexTrial
