import IndexTrial.Json.Basic

/-!
Typed reading of JSON values. A record is written as an object, in which unknown fields are passed
over and a known one may stand only once, or as the array of its fields in declared order. A field
is required, nullable (it may be missing in the object form, and `null` stands for nothing), or
defaulted (it may be missing in both forms).
-/

namespace IndexTrial

/-- The fields of a record by position. -/
structure Record where
  fields : List (Option Json)
  positional : Bool

namespace Json

/-- The only value under a name; two are an error. -/
def uniqueField? (name : String) (fields : List (String × Json)) : Option (Option Json) :=
  match fields.filter (·.1 == name) with
  | [] => some none
  | [f] => some (some f.2)
  | _ => none

def record? (names : List String) : Json → Option Record
  | .object fs => (names.mapM (uniqueField? · fs)).map (⟨·,false⟩)
  | .array js =>
    if js.length ≤ names.length then
      some ⟨js.map some ++ List.replicate (names.length - js.length) none,true⟩
    else none
  | _ => none

/-- As `record?`, but an unknown field is an error. -/
def closedRecord? (names : List String) (j : Json) : Option Record :=
  match j with
  | .object fs => if fs.all (names.contains ·.1) then record? names j else none
  | _ => record? names j

def asText? : Json → Option String
  | .text s => some s
  | _ => none

def asBool? : Json → Option Bool
  | .bool b => some b
  | _ => none

/-- A whole number of at most `bits` bits. A double is none, be it integral. -/
def asUnsigned? (bits : Nat) : Json → Option Nat
  | .int i => if 0 ≤ i ∧ i.toNat < 2 ^ bits then some i.toNat else none
  | _ => none

/-- A finite double; whole numbers are converted. -/
def asBinary64? : Json → Option Binary64
  | .int i => some (.ofRatio (decide (i < 0)) i.natAbs 1)
  | .float x => if x.isFinite then some x else none
  | _ => none

def asList? {α : Type} (decode : Json → Option α) : Json → Option (List α)
  | .array js => js.mapM decode
  | _ => none

/-- `null` is nothing, anything else must decode. -/
def asNullable? {α : Type} (decode : Json → Option α) : Json → Option (Option α)
  | .null => some none
  | j => (decode j).map some

/-- The name of a constant: a string, or an object with `null` under the name. -/
def asName? : Json → Option String
  | .text s => some s
  | .object [(k,.null)] => some k
  | _ => none

def asConstant? {α : Type} (names : List (String × α)) (j : Json) : Option α :=
  (asName? j).bind (names.lookup ·)

mutual

/-- Whether a value holds texts and finite numbers only. -/
def isSound : Json → Bool
  | .float x => x.isFinite
  | .halfPair => false
  | .array js => areSound js
  | .object fs => fieldsSound fs
  | _ => true

def areSound : List Json → Bool
  | [] => true
  | j :: js => isSound j && areSound js

def fieldsSound : List (String × Json) → Bool
  | [] => true
  | (_,j) :: fs => isSound j && fieldsSound fs

end

mutual

def depth : Json → Nat
  | .array js => depthOfItems js + 1
  | .object fs => depthOfFields fs + 1
  | _ => 0

def depthOfItems : List Json → Nat
  | [] => 0
  | j :: js => max (depth j) (depthOfItems js)

def depthOfFields : List (String × Json) → Nat
  | [] => 0
  | (_,j) :: fs => max (depth j) (depthOfFields fs)

end

end Json

namespace Record

def get? (r : Record) (i : Nat) : Option Json := (r.fields[i]?).join

def required {α : Type} (r : Record) (i : Nat) (decode : Json → Option α) : Option α :=
  (r.get? i).bind decode

def nullable {α : Type} (r : Record) (i : Nat) (decode : Json → Option α) : Option (Option α) :=
  match r.get? i with
  | some j => Json.asNullable? decode j
  | none => if r.positional then none else some none

def defaulted {α : Type} (r : Record) (i : Nat) (decode : Json → Option α) (default : α) :
    Option α :=
  match r.get? i with
  | some j => decode j
  | none => some default

/-- A defaulted field for which `null`, too, stands for nothing. -/
def optional {α : Type} (r : Record) (i : Nat) (decode : Json → Option α) : Option (Option α) :=
  r.defaulted i (Json.asNullable? decode) none

end Record

end IndexTrial
