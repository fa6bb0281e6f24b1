import IndexTrial.Failure
import IndexTrial.Layers.KeyPath
import IndexTrial.Layers.Source
import IndexTrial.Layers.Variables
import IndexTrial.Settings.Check
import IndexTrial.Settings.Raw

/-!
The settings in force: the defaults, over them those of a file, over these those of the environment
variables. They must have the form of settings and obey the rules.
-/

namespace IndexTrial

namespace Settings

def defaultEntries : List (String × RawValue) := (RawValue.ofJson (toJson {})).entries

/-- The sources laid one over the other, the first at the bottom. -/
def layered (sources : List (List (String × RawValue))) : RawValue :=
  sources.foldl RawValue.overlay (.table [])

def checked (s : Settings) : Except Failure Settings :=
  match s.problem? with
  | none => .ok s
  | some p => .error (.settingsRejected p.message)

def load (files : FileTree) (path : Option String) (vars : List (String × String)) :
    Except Failure Settings :=
  match path.elim (some []) files.sourceEntries? with
  | none => .error .settingsUnreadable
  | some entries =>
    match ofRaw? (layered [defaultEntries,entries,Variables.settings vars]) with
    | none => .error .settingsMalformed
    | some s => s.checked

end Settings

end IndexTrial
