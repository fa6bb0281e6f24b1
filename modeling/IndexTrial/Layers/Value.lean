import IndexTrial.Json.Basic
import IndexTrial.Text.Case

/-!
Values as a source of settings gives them, whatever its format, and how one source is laid over
another: a table is merged entry by entry, anything else takes the place of what was there. Keys
are compared without regard to case.
-/

namespace IndexTrial

inductive RawValue where
  | nothing
  | bool (value : Bool)
  | int (value : Int)
  | float (value : Binary64)
  | text (value : String)
  | list (items : List RawValue)
  | table (entries : List (String × RawValue))
  deriving Inhabited, Repr

namespace RawValue

/-- The entries of a table; nothing else has any. -/
def entries : RawValue → List (String × RawValue)
  | table es => es
  | _ => []

def items : RawValue → List RawValue
  | list vs => vs
  | _ => []

/-- Puts a value in the place of the one under a key, or at the end. -/
def setEntry (key : String) (v : RawValue) : List (String × RawValue) → List (String × RawValue)
  | [] => [(key,v)]
  | (k,w) :: es => if k = key then (k,v) :: es else (k,w) :: setEntry key v es

mutual

/-- Lays a value over what a table has under a key. What is no table becomes one. -/
def assign (key : String) (root : RawValue) : RawValue → RawValue
  | .table incoming =>
    let target := (root.entries.lookup (lowered key)).getD (.table [])
    .table (setEntry (lowered key) (assignAll target incoming) root.entries)
  | v => .table (setEntry (lowered key) v root.entries)

def assignAll (target : RawValue) : List (String × RawValue) → RawValue
  | [] => target
  | (k,v) :: rest => assignAll (assign k target v) rest

end

mutual

/-- Whole numbers beyond the signed 64-bit range are doubles; of two values under one key the last
counts. -/
def ofJson : Json → RawValue
  | .null => .nothing
  | .bool b => .bool b
  | .int i => if i < 2 ^ 63 then .int i else .float (.ofRatio false i.natAbs 1)
  | .float x => .float x
  | .text s => .text s
  | .halfPair => .nothing
  | .array js => .list (ofJsonItems js)
  | .object fs => .table (ofJsonFields fs)

def ofJsonItems : List Json → List RawValue
  | [] => []
  | j :: js => ofJson j :: ofJsonItems js

def ofJsonFields : List (String × Json) → List (String × RawValue)
  | [] => []
  | (k,j) :: fs =>
    let rest := ofJsonFields fs
    if (rest.lookup k).isSome then rest else (k,ofJson j) :: rest

end

end RawValue

end IndexTrial
