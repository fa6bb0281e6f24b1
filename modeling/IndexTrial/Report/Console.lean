import IndexTrial.Binary64.Spelling
import IndexTrial.Run.Artifact

/-! The summary of a run for the terminal. -/

namespace IndexTrial

def Advice.label (engines : EnginePair) : Advice → String
  | .stronglyRecommend => "STRONGLY RECOMMEND " ++ engines.candidate
  | .recommend => "RECOMMEND " ++ engines.candidate
  | .neutral => "NEUTRAL"
  | .avoid => "USE " ++ engines.baseline

namespace Console

def rule : String := String.ofList (List.replicate 72 '=')

def poolLine (capacityMb : Option Binary64) : String :=
  "Buffer pool:    " ++ capacityMb.elim "unknown" fun mb => mb.fixedPlaces 0 ++ " MB"

def elapsedLine (b : Budget) : String :=
  s!"Elapsed:        {b.elapsedSeconds.fixedPlaces 1}s of {b.limitSeconds}s budget" ++
    if b.exhausted then " (exhausted)" else ""

def resultsLine (c : StatusCounts) : String :=
  s!"Results:        {c.ok} ok, {c.incomplete} incomplete, {c.skipped} skipped"

def regressionsLine (loaded : Bool) (c : VerdictCounts) : String :=
  if loaded then
    s!"Regressions:    {c.ok} ok, {c.warning} warning, {c.critical} critical, " ++
      s!"{c.noBaseline} without baseline"
  else "Regressions:    no baseline loaded"

def tableLine (workload query mode engine p50 p95 status : String) : String :=
  " ".intercalate
    [padRight 36 workload,padRight 18 query,mode,padRight 7 engine,padLeft 10 p50,
      padLeft 10 p95] ++ "  " ++ status

def msText (value : Option Binary64) : String := value.elim "-" (·.fixedPlaces 2)

def resultLine (m : Measurement) : String :=
  tableLine m.workload m.query m.mode.name m.engine (msText m.p50)
    (msText (m.summary.map (·.p95)))
    (m.status.name ++ m.comparison.elim "" fun c => s!" [{c.worst.label}]")

def adviceLine (engines : EnginePair) (a : WorkloadAdvice) : String :=
  let label := a.advice.elim "no recommendation" (·.label engines)
  s!"  {padRight 36 a.workload} {padRight 28 label} {a.reason}"

def skippedLine (o : Outcome) : Option String :=
  o.error.map fun e => s!"Skipped {o.workload}: {e}"

def lines (a : Artifact) : List String :=
  ["",rule,
    s!"  {a.engines.candidate} vs {a.engines.baseline} " ++
      s!"({a.mode.name} run, {a.environment.scale.name} tier: {a.environment.scaleName})",
    rule,poolLine a.environment.capacityMb] ++
  (a.environment.serverVersion.toList.map ("Server:         " ++ ·)) ++
  [elapsedLine a.budget,resultsLine a.summary.results,
    regressionsLine a.baselineLoaded a.summary.verdicts] ++
  (a.environment.annotations.map ("Note:           " ++ ·)) ++
  ["",tableLine "workload" "query" "mode " "engine" "p50 ms" "p95 ms" "status"] ++
  a.results.map resultLine ++
  (if a.summary.advice.isEmpty then []
    else ["","Recommendations:"] ++ a.summary.advice.map (adviceLine a.engines)) ++
  a.outcomes.filterMap skippedLine ++
  [rule]

def render (a : Artifact) : String := String.join ((lines a).map (· ++ "\n"))

end Console

end IndexTrial
