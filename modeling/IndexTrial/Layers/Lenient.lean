import IndexTrial.Binary64.Rounding
import IndexTrial.Layers.Value

/-!
What a raw value stands for where a text, a number or a truth value is expected. The readings are
lenient: each of the three kinds is taken for the others where that makes sense.
-/

namespace IndexTrial

namespace RawValue

def truthWord? (text : String) : Option Bool :=
  let word := lowered text
  if word = "true" || word = "on" || word = "yes" then some true
  else if word = "false" || word = "off" || word = "no" then some false
  else none

def asBool? : RawValue → Option Bool
  | bool b => some b
  | int i => some (i != 0)
  | float x => some (x.isNaN || x.magnitude != 0)
  | text "1" => some true
  | text "0" => some false
  | text s => truthWord? s
  | _ => none

/-- A 64-bit word; a double is rounded and moved into the range. -/
def asWord? : RawValue → Option Nat
  | bool b => some b.toNat
  | int i => if 0 ≤ i then some i.toNat else none
  | float x => some x.roundHalfAway.toWord
  | text s =>
    match truthWord? s with
    | some b => some b.toNat
    | none => readUnsigned? 64 s
  | _ => none

def asUnsigned? (bits : Nat) (v : RawValue) : Option Nat :=
  v.asWord?.filter fun n => decide (n < 2 ^ bits)

def asBinary64? : RawValue → Option Binary64
  | bool b => some (.ofNat b.toNat)
  | int i => some (.ofRatio (decide (i < 0)) i.natAbs 1)
  | float x => some x
  | text s =>
    match truthWord? s with
    | some b => some (.ofNat b.toNat)
    | none => Binary64.read? s
  | _ => none

def asText? : RawValue → Option String
  | bool b => some (if b then "true" else "false")
  | int i => some i.repr
  | float x => some x.plain
  | text s => some s
  | _ => none

def asList? {α : Type} (decode : RawValue → Option α) : RawValue → Option (List α)
  | list vs => vs.mapM decode
  | _ => none

def asOptional? {α : Type} (decode : RawValue → Option α) : RawValue → Option (Option α)
  | nothing => some none
  | v => (decode v).map some

/-- A constant by its name in any case: a text, or a table with the name as its only key. -/
def asConstant? {α : Type} (names : List (String × α)) : RawValue → Option α
  | text s => names.lookup (lowered s)
  | table [(k,_)] => names.lookup (lowered k)
  | _ => none

/-- The fields of a record: a table with known keys only, or a list of values in declared order,
of which surplus ones are passed over. -/
def fields? (names : List String) : RawValue → Option (List (Option RawValue))
  | table es =>
    if es.all (names.contains ·.1) then some (names.map fun n => es.lookup n) else none
  | list vs => some (vs.map some)
  | _ => none

def field? {α : Type} (fields : List (Option RawValue)) (i : Nat)
    (decode : RawValue → Option α) (default : α) : Option α :=
  match fields[i]?.join with
  | some v => decode v
  | none => some default

end RawValue

end IndexTrial
