import IndexTrial.Binary64.Basic

/-! What happened to one workload as a unit, and the wall-clock budget of a run. -/

namespace IndexTrial

inductive OutcomeStatus
  | completed
  | skipped
  deriving DecidableEq, Inhabited, Repr

def OutcomeStatus.name : OutcomeStatus → String
  | completed => "completed"
  | skipped => "skipped"

def OutcomeStatus.named : List (String × OutcomeStatus) :=
  [("completed",completed),("skipped",skipped)]

theorem OutcomeStatus.named_name (s : OutcomeStatus) : OutcomeStatus.named.lookup s.name = some s := by
  cases s <;> rfl

structure Outcome where
  workload : String
  description : String
  table : String
  status : OutcomeStatus
  generated : Bool := false
  rowCount : Option Nat := none
  error : Option String := none
  elapsedSeconds : Binary64 := .zero
  deriving DecidableEq, Repr

structure Budget where
  limitSeconds : Nat
  elapsedSeconds : Binary64
  exhausted : Bool
  deriving DecidableEq, Repr

/-- The two index access methods: the reference and the one under evaluation. -/
structure EnginePair where
  baseline : String
  candidate : String
  deriving DecidableEq, Repr

def EnginePair.toList (e : EnginePair) : List String := [e.baseline,e.candidate]

theorem EnginePair.mem_toList {e : EnginePair} {engine : String} :
    engine ∈ e.toList ↔ engine = e.baseline ∨ engine = e.candidate := by
  simp [toList]

theorem EnginePair.baseline_mem (e : EnginePair) : e.baseline ∈ e.toList :=
  mem_toList.mpr (.inl rfl)

theorem EnginePair.candidate_mem (e : EnginePair) : e.candidate ∈ e.toList :=
  mem_toList.mpr (.inr rfl)

end IndexTrial
