import IndexTrial.Regression.Baseline
import IndexTrial.Run.Artifact
import IndexTrial.Trial.Executor
import IndexTrial.Workload.Suite

/-!
A run: the suite, workload by workload, inside a wall-clock budget. The budget is looked at between
workloads only; one that started in time runs to its end, and once the budget is spent all that
remain are recorded as left out.
-/

namespace IndexTrial

namespace Runner

variable {σ : Type}

def budgetExhausted : String := "run budget exhausted"

structure Options where
  mode : SuiteMode := .quick
  trial : TrialOptions := {}
  /-- Replaces the budget of the scale, in nanoseconds. -/
  budgetNanos : Option Nat := none
  thresholds : AdviceThresholds := .standard
  deriving DecidableEq, Repr

def Options.budget (o : Options) (env : Environment) : Nat :=
  o.budgetNanos.getD (env.timeoutSeconds * 10 ^ 9)

/-- Whether the budget is spent; once it is, the clock is not read again. -/
def checkBudget (deadline : Nat) (exhausted : Bool) : Session σ Bool :=
  if exhausted then return true
  else do
    let t ← Session.readClock
    return decide (deadline ≤ t)

/-- The workloads in order, with whether the budget ran out before one of them. -/
def runWorkloads (o : TrialOptions) (deadline : Nat) :
    Bool → List Workload → Session σ (Bool × List Executor.Report)
  | exhausted, [] => return (exhausted,[])
  | exhausted, w :: ws => do
    let exhausted ← checkBudget deadline exhausted
    let report ←
      if exhausted then pure (Executor.skippedReport o w budgetExhausted)
      else Executor.execute o w
    let (exhausted,reports) ← runWorkloads o deadline exhausted ws
    return (exhausted,report :: reports)

def run (o : Options) (d : Detector) (id : RunId) (env : Environment) (suite : List Workload) :
    Session σ Artifact := do
  let startedAt ← Session.now
  let start ← Session.readClock
  let budget := o.budget env
  let (exhausted,reports) ← runWorkloads o.trial (start + budget) false suite
  let outcomes := reports.map (·.outcome)
  let results := d.attach (reports.flatMap (·.results))
  let engines := o.trial.engines
  let stop ← Session.readClock
  let finishedAt ← Session.now
  return {
    id
    mode := o.mode
    startedAt
    finishedAt
    environment := env
    engines
    baselineLoaded := d.hasBaseline
    budget := ⟨budget / 10 ^ 9,Executor.secondsBetween start stop,exhausted⟩
    outcomes
    results
    summary := .ofRun o.thresholds engines exhausted outcomes results }

end Runner

end IndexTrial
