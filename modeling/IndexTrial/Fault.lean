import IndexTrial.Power
import IndexTrial.Text.Blank

/-!
What can go wrong in a trial. Each fault names the unit of work it may invalidate; only a lost
connection ends the whole run. Arithmetic that leaves the 64-bit words has failures of its own.
-/

namespace IndexTrial

inductive Fault where
  /-- The whole run. -/
  | connection (message : String)
  /-- One workload. -/
  | generation (workload reason : String)
  /-- One engine of one workload. -/
  | indexBuild (engine reason : String)
  /-- One result. -/
  | queryTimeout (sql : String) (limitMs : Nat)
  /-- One result. -/
  | queryFailed (message : String)
  /-- Nothing; the fidelity of a cold cache is noted. -/
  | evictionUnsupported (message : String)
  /-- The comparison with a baseline. -/
  | baseline (message : String)
  deriving DecidableEq, Inhabited, Repr

namespace Fault

def isFatal : Fault → Bool
  | connection _ => true
  | _ => false

def isTimeout : Fault → Bool
  | queryTimeout _ _ => true
  | _ => false

/-- A statement on one line, cut to 120 characters. -/
def excerpt (sql : String) : String :=
  let flat := " ".intercalate (words sql)
  if flat.length > 120 then String.ofList (flat.toList.take 117) ++ "..." else flat

def message : Fault → String
  | connection m => s!"Connection error: {m}"
  | generation w r => s!"Data generation failed for {w}: {r}"
  | indexBuild e r => s!"Index build failed for engine {e}: {r}"
  | queryTimeout sql ms => s!"Query exceeded statement timeout of {ms} ms: {excerpt sql}"
  | queryFailed m => s!"Query failed: {m}"
  | evictionUnsupported m => s!"Eviction unsupported: {m}"
  | baseline m => s!"Baseline unusable: {m}"

/-- As the failure of a workload's data, unless it is one already or ends the run. -/
def asGeneration (workload : String) : Fault → Fault
  | generation w r => generation w r
  | connection m => connection m
  | e => generation workload e.message

/-- As the failure of an index build, unless it ends the run. -/
def asIndexBuild (engine : String) (e : Fault) : Fault :=
  if e.isFatal then e else indexBuild engine e.message

@[simp] theorem isFatal_asIndexBuild (engine : String) (e : Fault) :
    (e.asIndexBuild engine).isFatal = e.isFatal := by
  unfold asIndexBuild
  split
  · rfl
  · simp_all [isFatal]

@[simp] theorem isFatal_asGeneration (workload : String) (e : Fault) :
    (e.asGeneration workload).isFatal = e.isFatal := by
  cases e <;> rfl

end Fault

/-- A computation on machine words that has no result. -/
inductive WordFault
  | additionOverflow
  | multiplicationOverflow
  | rankUndefined
  | divisionByZero
  | sliceOutOfRange (stop length : Nat)
  deriving DecidableEq, Repr

def WordFault.message : WordFault → String
  | additionOverflow => "attempt to add with overflow"
  | multiplicationOverflow => "attempt to multiply with overflow"
  | rankUndefined => "assertion failed: n > 0 && percent <= 100"
  | divisionByZero => "attempt to divide by zero"
  | sliceOutOfRange stop length =>
    s!"range end index {stop} out of range for slice of length {length}"

def mulWord (a b : Nat) : Except WordFault Nat :=
  if a * b < 2 ^ 64 then .ok (a * b) else .error .multiplicationOverflow

theorem mulWord_eq_ok_iff {a b c : Nat} : mulWord a b = .ok c ↔ a * b < 2 ^ 64 ∧ c = a * b := by
  grind [mulWord]

def addWord (width a b : Nat) : Except WordFault Nat :=
  if a + b < 2 ^ width then .ok (a + b) else .error .additionOverflow

theorem addWord_eq_ok_iff {width a b c : Nat} :
    addWord width a b = .ok c ↔ a + b < 2 ^ width ∧ c = a + b := by
  grind [addWord]

def divWord (a b : Nat) : Except WordFault Nat :=
  if b = 0 then .error .divisionByZero else .ok (a / b)

theorem divWord_of_pos {a b : Nat} (h : 0 < b) : divWord a b = .ok (a / b) :=
  if_neg (Nat.ne_of_gt h)

/-- The first `n` of a list, if it has as many. -/
def sliceTo {α : Type} (xs : List α) (n : Nat) : Except WordFault (List α) :=
  if n ≤ xs.length then .ok (xs.take n) else .error (.sliceOutOfRange n xs.length)

theorem sliceTo_min {α : Type} (xs : List α) (n : Nat) :
    sliceTo xs (min n xs.length) = .ok (xs.take n) := by
  rw [sliceTo,if_pos (Nat.min_le_right ..),← List.take_eq_take_min]

end IndexTrial
