import IndexTrial.Environment
import IndexTrial.Run.Artifact
import IndexTrial.Workload.PatternWorkload

/-! The workloads of a run, in order of execution. -/

namespace IndexTrial

namespace Suite

/-- Workers of the parallel workload of a quick run; without any it is left out. -/
def quickWorkers (env : Environment) : Nat := min (env.maxParallelWorkers.getD 0) 4

/-- Patterns of a quick run before and after the parallel workload, each with its modes. -/
def quickHead : List (Pattern × List CacheMode) :=
  [(.timeSeries 50,[.hot,.cold]),(.textKeys .uuid,[.hot]),(.textKeys .utf8,[.hot]),
    (.composite,[.hot]),(.selectivity (.ofDecimal false 1 (-3)),[.hot]),
    (.selectivity (.ofDecimal false 1 (-1)),[.hot])]

def quickParallel : Pattern := .selectivity (.ofDecimal false 5 (-1))

def quickTail : List (Pattern × List CacheMode) :=
  [.includeOverhead 0,.includeOverhead 4,.timeSeries 10,.backwardScan,.limit,.inClause,
    .dataType .int2,.dataType .int8,.dataType .date,.indexOnly,.partialIndex].map
    fun p => (p,[.hot])

def buildAll (rows seed : Nat) (patterns : List (Pattern × List CacheMode)) :
    Except WordFault (List PatternWorkload) :=
  patterns.mapM fun (p,modes) => PatternWorkload.build p rows modes seed

def quick (env : Environment) (seed : Nat) : Except WordFault (List PatternWorkload) := do
  let rows := env.scale.profile.rowCounts.headD 100000
  let workers := quickWorkers env
  let head ← buildAll rows seed quickHead
  let middle ←
    if 0 < workers then do
      let w ← PatternWorkload.build quickParallel rows [.hot] seed
      pure [w.withParallelism workers]
    else pure []
  let tail ← buildAll rows seed quickTail
  return head ++ middle ++ tail

/-- Dimension tables stay small. -/
def dimensionRows (rows : Nat) : Nat := min rows 100000

/-- Adds the core workloads at one row count; a dimension table that is there already is not
registered again. -/
def addCore (modes : List CacheMode) (seed : Nat) (suite : List PatternWorkload) (rows : Nat) :
    Except WordFault (List PatternWorkload) := do
  let series ← PatternWorkload.build (.timeSeries 50) rows modes seed
  let dimension ← PatternWorkload.build .dimension (dimensionRows rows) modes seed
  let suite := suite ++ [series]
  let suite := if suite.any (·.id == dimension.id) then suite else suite ++ [dimension]
  let others ← buildAll rows seed
    [(.events (rows / 100),modes),(.sparse,modes),(.composite,modes)]
  return suite ++ others

def full (env : Environment) (seed : Nat) : Except WordFault (List PatternWorkload) :=
  let p := env.scale.profile
  p.rowCounts.foldlM (addCore p.cacheModes seed) []

def build (mode : SuiteMode) (env : Environment) (seed : Nat) :
    Except WordFault (List PatternWorkload) :=
  match mode with
  | .quick => quick env seed
  | .full => full env seed

end Suite

end IndexTrial
