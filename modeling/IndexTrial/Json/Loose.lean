import IndexTrial.Binary64.Rounding
import IndexTrial.Json.Reader

/-!
Loose reading of JSON values, for descriptions in which nearly everything may be left out. A field
that is missing or `null` stands for a default, and a value of another kind for an empty one.
-/

namespace IndexTrial

namespace Json

/-- The last value under a name. -/
def field? (j : Json) (key : String) : Option Json :=
  match j with
  | .object fs =>
    match fs.reverse.lookup key with
    | some .null => none
    | found => found
  | _ => none

def has (j : Json) (key : String) : Bool := (field? j key).isSome

def textOf : Json → String
  | .text s => s
  | _ => ""

def natOf : Json → Nat
  | .int i => i.toNat
  | .float x => x.truncated
  | _ => 0

def boolOf : Json → Bool
  | .bool b => b
  | _ => false

def listOf : Json → List Json
  | .array js => js
  | _ => []

def fieldsOf : Json → List (String × Json)
  | .object fs => fs
  | _ => []

def hexNat (cs : List Char) : Nat := cs.foldl (fun n c => 16 * n + (hexValue? c).getD 0) 0

/-- A number, a word for a value that is no finite number, or an `x` and the bits in
hexadecimal. -/
def floatOf : Json → Binary64
  | .int i => .ofRatio (decide (i < 0)) i.natAbs 1
  | .float x => x
  | .text "nan" => .nan
  | .text "inf" => .infinity
  | .text "-inf" => .negativeInfinity
  | .text s => ⟨UInt64.ofNat (hexNat (s.toList.drop 1))⟩
  | _ => .zero

def sub (j : Json) (key : String) : Json := (field? j key).getD .null

def opt {α : Type} (j : Json) (key : String) (decode : Json → α) : Option α :=
  (field? j key).map decode

def getText (j : Json) (key default : String) : String := (opt j key textOf).getD default

def str (j : Json) (key : String) : String := getText j key ""

def getNat (j : Json) (key : String) (default : Nat) : Nat := (opt j key natOf).getD default

def getBool (j : Json) (key : String) (default : Bool) : Bool := (opt j key boolOf).getD default

def getFloat (j : Json) (key : String) (default : Binary64) : Binary64 :=
  (opt j key floatOf).getD default

def getList (j : Json) (key : String) : List Json := listOf (sub j key)

def getTexts (j : Json) (key : String) : List String := (getList j key).map textOf

def getMap {α : Type} (j : Json) (key : String) (decode : Json → α) : List (String × α) :=
  (fieldsOf (sub j key)).map fun (k,v) => (k,decode v)

end Json

end IndexTrial
