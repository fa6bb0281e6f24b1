import IndexTrial.CommandLine.Options
import IndexTrial.Text.Blank

/-! The help and the version as they are printed. -/

namespace IndexTrial

namespace Help

def programName : String := "indexbench"

def version : String := s!"{programName} 0.1.0\n"

def OptionRule.usage (r : OptionRule) : String :=
  match r.value with
  | none => s!"    --{r.name}"
  | some (word,_) => s!"    --{r.name} <{word}>"

/-- The purpose, and what the environment says at present. -/
def purpose (vars : List (String × String)) (r : OptionRule) : String :=
  match r.fallback with
  | none => r.purpose
  | some v =>
    let current := (vars.lookup v).getD ""
    if r.hidesFallback then s!"{r.purpose} [env: {v}]"
    else s!"{r.purpose} [env: {v}={current}]"

def rows (vars : List (String × String)) : List (String × String) :=
  optionRules.map (fun r => (OptionRule.usage r,purpose vars r)) ++
    [("-h, --help","Print help"),("-V, --version","Print version")]

def text (vars : List (String × String)) : String :=
  let rows := rows vars
  let width := (rows.map (·.1.length)).foldl max 0
  String.join <| List.map (· ++ "\n") <|
    ["Cache-aware benchmark of two index access methods","",
      s!"Usage: {programName} [OPTIONS]","","Options:"] ++
    rows.map fun (usage,purpose) => s!"  {padRight width usage}  {purpose}"

end Help

end IndexTrial
