import IndexTrial.Environment
import IndexTrial.Run.Id
import IndexTrial.Run.Summary

/-! Everything that a run produced. -/

namespace IndexTrial

inductive SuiteMode
  /-- Fewer workloads, at the smallest row count of the scale. -/
  | quick
  /-- The core workloads at every row count of the scale. -/
  | full
  deriving DecidableEq, Inhabited, Repr

def SuiteMode.name : SuiteMode → String
  | quick => "quick"
  | full => "full"

def SuiteMode.named : List (String × SuiteMode) := [("quick",quick),("full",full)]

theorem SuiteMode.named_name (m : SuiteMode) : SuiteMode.named.lookup m.name = some m := by
  cases m <;> rfl

structure Artifact where
  id : RunId
  mode : SuiteMode
  startedAt : Moment
  finishedAt : Moment
  environment : Environment
  engines : EnginePair
  baselineLoaded : Bool
  budget : Budget
  outcomes : List Outcome
  results : List Measurement
  summary : RunSummary
  deriving DecidableEq, Repr

def Artifact.stem (a : Artifact) : String := a.mode.name ++ "-" ++ a.startedAt.stamp

end IndexTrial
