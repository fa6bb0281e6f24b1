import IndexTrial.Client.Catalog
import IndexTrial.Regression.File
import IndexTrial.Settings.Basic

/-! A whole benchmark: the probe, the suite of the scale that it finds, and the run. -/

namespace IndexTrial

def Suite.workloads (mode : SuiteMode) (env : Environment) (seed : Nat) :
    Except WordFault (List Workload) :=
  (Suite.build mode env seed).map (·.map PatternWorkload.toWorkload)

namespace Benchmark

variable {σ : Type}

/-- Probes the server and runs the suite of its scale; the results are compared with the baseline
in the files, if there is a usable one. -/
def run (s : Settings) (mode : SuiteMode) (id : RunId) (files : FileTree) :
    Session σ (Except WordFault Artifact) := do
  let env ← Session.probe
  match Suite.workloads mode env s.run.seed with
  | .error e => return .error e
  | .ok suite =>
    let d := s.detector (Baseline.loadUsable files s.paths.baseline)
    let a ← Runner.run (s.runner mode) d id env suite
    return .ok a

end Benchmark

end IndexTrial
