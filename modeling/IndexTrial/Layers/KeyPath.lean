import IndexTrial.Binary64.Spelling
import IndexTrial.Layers.Value
import IndexTrial.Text.Blank

/-!
Paths to a setting: a name, then names after dots and positions in brackets. A text that is no such
path is a name as it stands.
-/

namespace IndexTrial

inductive KeyStep
  | entry (name : String)
  | position (index : Int)
  deriving DecidableEq, Repr

structure KeyPath where
  head : String
  steps : List KeyStep := []
  deriving DecidableEq, Repr

namespace KeyPath

def isNameChar (c : Char) : Bool := c.isAlphanum || c = ' ' || c = '_' || c = '-'

def spanName (cs : List Char) : String × List Char :=
  (String.ofList (cs.takeWhile isNameChar),cs.dropWhile isNameChar)

theorem length_spanName_le (cs : List Char) : (spanName cs).2.length ≤ cs.length :=
  (List.dropWhile_sublist _).length_le

def readPosition? (cs : List Char) : Option (Int × List Char) :=
  let inside := cs.takeWhile (· ≠ ']')
  let number := trimmed (String.ofList inside)
  match cs.drop inside.length with
  | ']' :: rest =>
    if number.startsWith "+" then none else (readSigned? number).map (·,rest)
  | _ => none

theorem length_of_readPosition? {cs rest : List Char} {i : Int}
    (h : readPosition? cs = some (i,rest)) : rest.length < cs.length := by
  simp only [readPosition?] at h
  split at h
  · rename_i tail heq
    have hl := congrArg List.length heq
    simp only [List.length_drop,List.length_cons] at hl
    split at h
    · simp at h
    · simp only [Option.map_eq_some_iff,Prod.mk.injEq] at h
      obtain ⟨_,_,_,rfl⟩ := h
      omega
  · simp at h

def readSteps? (cs : List Char) : Option (List KeyStep) :=
  match cs with
  | [] => some []
  | '.' :: rest =>
    let name := spanName rest
    have := length_spanName_le rest
    if name.1.isEmpty then none else (readSteps? name.2).map (.entry name.1 :: ·)
  | '[' :: rest =>
    match h : readPosition? rest with
    | none => none
    | some (i,rest') =>
      have := length_of_readPosition? h
      (readSteps? rest').map (.position i :: ·)
  | _ => none
  termination_by cs.length

def read (text : String) : KeyPath :=
  let (head,rest) := spanName text.toList
  if head.isEmpty then ⟨text,[]⟩
  else (readSteps? rest).elim ⟨text,[]⟩ (⟨head,·⟩)

/-- Where a position lies in a list; a negative one lies as far behind its end. -/
def place (i : Int) (length : Nat) : Nat := if 0 ≤ i then i.toNat else length + i.natAbs

/-- Changes one item of a list, which is made long enough. -/
def modifyItem (i : Int) (f : RawValue → RawValue) (vs : List RawValue) : List RawValue :=
  let n := place i vs.length
  let vs := vs ++ List.replicate (n + 1 - vs.length) .nothing
  vs.modify n f

/-- Sets what lies under the steps, making tables and lists where there are none. -/
def setSteps (v : RawValue) : List KeyStep → RawValue → RawValue
  | [], _ => v
  | [.entry name], current => current.assign name v
  | .entry name :: rest, current =>
    let old := (current.entries.lookup name).getD .nothing
    .table (RawValue.setEntry name (setSteps v rest old) current.entries)
  | .position i :: rest, current => .list (modifyItem i (setSteps v rest) current.items)

def set (p : KeyPath) (v : RawValue) (root : RawValue) : RawValue :=
  setSteps v (.entry p.head :: p.steps) root

end KeyPath

namespace RawValue

def overlay (root : RawValue) (source : List (String × RawValue)) : RawValue :=
  source.foldl (fun root (key,v) => (KeyPath.read key).set v root) root

end RawValue

end IndexTrial
