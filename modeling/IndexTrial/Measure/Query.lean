import IndexTrial.CacheMode
import IndexTrial.Fault

/-!
Queries and how often they run. The shape of a query fixes its default number of measured
executions; a cold query is measured once and never warmed up, since a second execution would find
the pages that the first one loaded.
-/

namespace IndexTrial

inductive QueryShape
  | pointLookup
  | rangeScan
  | fullScan
  | aggregation
  | custom (repeats : Nat)
  deriving DecidableEq, Repr

def QueryShape.defaultRepeat : QueryShape → Nat
  | pointLookup => 10
  | rangeScan => 5
  | fullScan => 3
  | aggregation => 5
  | custom n => n

/-- One measured statement; `repeats` overrides the default of its shape. -/
structure Query where
  id : String
  sql : String
  description : String := ""
  shape : QueryShape
  mode : CacheMode := .hot
  repeats : Option Nat := none
  warmup : Bool := true
  deriving DecidableEq, Repr

/-- Measured executions, before the cache mode is taken into account; at least one. -/
def Query.configuredRepeat (q : Query) : Nat := max (q.repeats.getD q.shape.defaultRepeat) 1

theorem Query.configuredRepeat_pos (q : Query) : 0 < q.configuredRepeat := by
  unfold configuredRepeat; omega

/-- What was done to bring the cache to a mode. `primed` says that the query itself already ran. -/
structure Preparation where
  primed : Bool := false
  buffersEvicted : Option Nat := none
  filesEvicted : Option Nat := none
  annotations : List String := []
  deriving DecidableEq, Inhabited, Repr

def addNote (old : List String) (n : String) : List String :=
  if old.contains n then old else old ++ [n]

theorem addNote_nodup {old : List String} (n : String) (h : old.Nodup) :
    (addNote old n).Nodup := by
  unfold addNote
  split
  · exact h
  · grind [List.nodup_append]

theorem mem_addNote {old : List String} {n a : String} :
    a ∈ addNote old n ↔ a ∈ old ∨ a = n := by
  grind [addNote]

def addNotes (old new : List String) : List String := new.foldl addNote old

theorem addNotes_nodup {old : List String} (new : List String) (h : old.Nodup) :
    (addNotes old new).Nodup := by
  induction new generalizing old with
  | nil => exact h
  | cons n ns ih => exact ih (addNote_nodup n h)

theorem mem_addNotes {old new : List String} {a : String} :
    a ∈ addNotes old new ↔ a ∈ old ∨ a ∈ new := by
  induction new generalizing old with
  | nil => simp [addNotes]
  | cons n ns ih =>
    have h : addNotes old (n :: ns) = addNotes (addNote old n) ns := rfl
    rw [h,ih,mem_addNote,List.mem_cons,or_assoc]

namespace Preparation

def degradedEviction : String := "degraded-eviction"
def filesNotEvicted : String := "os-eviction-unavailable"
def warmIncomplete : String := "warm-prep-incomplete"

def note (p : Preparation) (n : String) : Preparation :=
  { p with annotations := addNote p.annotations n }

def isDegraded (p : Preparation) : Bool := p.annotations.contains degradedEviction

end Preparation

/-- How many executions follow the preparation: one to discard if `warmup`, then the measured. -/
structure SamplingPlan where
  warmup : Bool
  repeats : Nat
  deriving DecidableEq, Repr

namespace SamplingPlan

/-- A preparation that already ran the query counts as its warmup. -/
def ofQuery (q : Query) (p : Preparation) : SamplingPlan :=
  match q.mode with
  | .cold => ⟨false,1⟩
  | .hot | .warm => ⟨q.warmup && !p.primed,q.configuredRepeat⟩

def executions (p : SamplingPlan) : Except WordFault Nat :=
  addWord 32 p.repeats p.warmup.toNat

end SamplingPlan

end IndexTrial
