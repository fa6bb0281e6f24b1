import IndexTrial.Layers.Value

/-!
The tables of a TOML text while they are built. A table is defined once: by its header, or piece by
piece through dotted keys, or in passing as the parent of another one. Only a table of the last kind
may still get a header of its own.
-/

namespace IndexTrial

namespace Toml

inductive Item where
  | value (v : RawValue)
  /-- `implied`: no header has defined it; `dotted`: dotted keys have. -/
  | table (implied dotted : Bool) (entries : List (String × Item))
  | tables (elements : List (List (String × Item)))
  deriving Inhabited

abbrev Entries := List (String × Item)

mutual

def Item.toRaw : Item → RawValue
  | .value v => v
  | .table _ _ es => .table (entriesToRaw es)
  | .tables ts => .list (elementsToRaw ts)

def entriesToRaw : Entries → List (String × RawValue)
  | [] => []
  | (k,i) :: es => (k,i.toRaw) :: entriesToRaw es

def elementsToRaw : List Entries → List RawValue
  | [] => []
  | es :: ts => .table (entriesToRaw es) :: elementsToRaw ts

end

namespace Entries

/-- Puts an item in the place of the one under a key, or at the end. -/
def set (key : String) (i : Item) : Entries → Entries
  | [] => [(key,i)]
  | (k,j) :: es => if k = key then (k,i) :: es else (k,j) :: set key i es

def onLast? (f : Entries → Option Entries) : List Entries → Option (List Entries)
  | [] => none
  | [t] => (f t).map fun t => [t]
  | t :: ts => (onLast? f ts).map (t :: ·)

/-- Changes the entries of the table under a path of headers, which is made if it is missing. Of
several tables the last one is meant. -/
def under? (f : Entries → Option Entries) : List String → Entries → Option Entries
  | [], es => f es
  | k :: ks, es =>
    match es.lookup k with
    | none => (under? f ks []).map fun inner => set k (.table true false inner) es
    | some (.table implied dotted inner) =>
      (under? f ks inner).map fun inner => set k (.table implied dotted inner) es
    | some (.tables ts) => (onLast? (under? f ks) ts).map fun ts => set k (.tables ts) es
    | some (.value _) => none

def add? (key : String) (v : RawValue) (es : Entries) : Option Entries :=
  if (es.lookup key).isSome then none else some (es ++ [(key,.value v)])

/-- Adds a value under a dotted key. The tables between must be of dotted keys too. -/
def addDotted? (v : RawValue) : List String → Entries → Option Entries
  | [], _ => none
  | [k], es => add? k v es
  | k :: ks, es =>
    match es.lookup k with
    | none => (addDotted? v ks []).map fun inner => set k (.table true true inner) es
    | some (.table true true inner) =>
      (addDotted? v ks inner).map fun inner => set k (.table true true inner) es
    | some _ => none

def openTable? (key : String) (es : Entries) : Option Entries :=
  match es.lookup key with
  | none => some (set key (.table false false []) es)
  | some (.table true false inner) => some (set key (.table false false inner) es)
  | some _ => none

def openElement? (key : String) (es : Entries) : Option Entries :=
  match es.lookup key with
  | none => some (set key (.tables [[]]) es)
  | some (.tables ts) => some (set key (.tables (ts ++ [[]])) es)
  | some _ => none

end Entries

end Toml

end IndexTrial
