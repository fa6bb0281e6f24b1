import IndexTrial.Binary64.Spelling
import IndexTrial.Layers.Value
import IndexTrial.Text.Search

/-!
Settings from environment variables. `INDEXBENCH__SECTION__KEY`, in any case, names a setting; its
text is a truth value, a whole number or a number if it reads as one.
-/

namespace IndexTrial

namespace Variables

def lead : String := "indexbench__"

def separator : String := "__"

def readValue (text : String) : RawValue :=
  match lowered text with
  | "true" => .bool true
  | "false" => .bool false
  | _ =>
    match readSigned? text with
    | some i => .int i
    | none =>
      match Binary64.read? text with
      | some x => .float x
      | none => .text text

def path? (name : String) : Option String :=
  (afterLead? lead (lowered name)).map (replaceText separator ".")

def settings (vars : List (String × String)) : List (String × RawValue) :=
  vars.filterMap fun (name,text) => (path? name).map (·,readValue text)

end Variables

end IndexTrial
