import IndexTrial.Power

/-!
Double-precision numbers by their bit patterns. Every pattern is a value of its own, so that two
NaNs of different sign or payload stay apart; the numeric order and the total order are both read
off the patterns by integer keys.
-/

namespace IndexTrial

structure Binary64 where
  bits : UInt64
  deriving DecidableEq, Inhabited, Repr

namespace Binary64

/-- The pattern without its sign bit. Magnitudes are ordered as the patterns are. -/
def magnitude (x : Binary64) : Nat := x.bits.toNat % 2 ^ 63

def isNegative (x : Binary64) : Bool := decide (2 ^ 63 ≤ x.bits.toNat)

def infinityMagnitude : Nat := 0x7ff * 2 ^ 52

def isNaN (x : Binary64) : Bool := decide (infinityMagnitude < x.magnitude)

def isFinite (x : Binary64) : Bool := decide (x.magnitude < infinityMagnitude)

def ofMagnitude (negative : Bool) (magnitude : Nat) : Binary64 :=
  ⟨UInt64.ofNat (magnitude + if negative then 2 ^ 63 else 0)⟩

def zero : Binary64 := ⟨0⟩
def negativeZero : Binary64 := ⟨0x8000000000000000⟩
def one : Binary64 := ⟨0x3ff0000000000000⟩
def infinity : Binary64 := ⟨0x7ff0000000000000⟩
def negativeInfinity : Binary64 := ⟨0xfff0000000000000⟩
def nan : Binary64 := ⟨0x7ff8000000000000⟩

instance : OfNat Binary64 0 := ⟨zero⟩
instance : OfNat Binary64 1 := ⟨one⟩

theorem ext_bits {x y : Binary64} (h : x.bits = y.bits) : x = y := by
  cases x; cases y; simp_all

/-- A finite magnitude is `significand x * 2 ^ exponent x`. -/
def significand (x : Binary64) : Nat :=
  x.magnitude % 2 ^ 52 + if x.magnitude < 2 ^ 52 then 0 else 2 ^ 52

def exponent (x : Binary64) : Int := max (x.magnitude / 2 ^ 52 : Nat) 1 - 1075

/-- Key of the numeric order; the two zeros share it. -/
def numericKey (x : Binary64) : Int :=
  if x.isNegative then -(x.magnitude : Int) else x.magnitude

/-- Key of the total order: negative NaNs first, then the numbers with `-0` before `0`, then the
positive NaNs. -/
def totalKey (x : Binary64) : Int :=
  if x.isNegative then -(x.magnitude : Int) - 1 else x.magnitude

theorem totalKey_inj {x y : Binary64} (h : x.totalKey = y.totalKey) : x = y := by
  apply ext_bits
  have hx := x.bits.toNat_lt
  have hy := y.bits.toNat_lt
  apply UInt64.toNat_inj.mp
  simp only [totalKey,isNegative,magnitude,decide_eq_true_eq] at h
  split at h <;> split at h <;> omega

def totalLe (x y : Binary64) : Bool := decide (x.totalKey ≤ y.totalKey)

theorem totalLe_trans {x y z : Binary64} (h : x.totalLe y) (h' : y.totalLe z) : x.totalLe z := by
  simp only [totalLe,decide_eq_true_eq] at *
  omega

theorem totalLe_total (x y : Binary64) : x.totalLe y || y.totalLe x := by
  simp only [totalLe,Bool.or_eq_true,decide_eq_true_eq]
  omega

theorem totalLe_antisymm {x y : Binary64} (h : x.totalLe y) (h' : y.totalLe x) : x = y := by
  apply totalKey_inj
  simp only [totalLe,decide_eq_true_eq] at *
  omega

/-- Numeric `≤`; false as soon as a NaN takes part. -/
def le (x y : Binary64) : Bool :=
  !x.isNaN && !y.isNaN && decide (x.numericKey ≤ y.numericKey)

def lt (x y : Binary64) : Bool :=
  !x.isNaN && !y.isNaN && decide (x.numericKey < y.numericKey)

theorem le_trans {x y z : Binary64} (h : x.le y) (h' : y.le z) : x.le z := by
  simp only [le,Bool.and_eq_true,Bool.not_eq_true',decide_eq_true_eq] at *
  exact ⟨⟨h.1.1,h'.1.2⟩,by omega⟩

theorem lt_of_lt_of_le {x y z : Binary64} (h : x.lt y) (h' : y.le z) : x.lt z := by
  simp only [le,lt,Bool.and_eq_true,Bool.not_eq_true',decide_eq_true_eq] at *
  exact ⟨⟨h.1.1,h'.1.2⟩,by omega⟩

theorem lt_of_le_of_lt {x y z : Binary64} (h : x.le y) (h' : y.lt z) : x.lt z := by
  simp only [le,lt,Bool.and_eq_true,Bool.not_eq_true',decide_eq_true_eq] at *
  exact ⟨⟨h.1.1,h'.1.2⟩,by omega⟩

theorem le_of_lt {x y : Binary64} (h : x.lt y) : x.le y := by
  simp only [le,lt,Bool.and_eq_true,Bool.not_eq_true',decide_eq_true_eq] at *
  exact ⟨h.1,by omega⟩

def toFloat (x : Binary64) : Float := Float.ofBits x.bits
def ofFloat (x : Float) : Binary64 := ⟨x.toBits⟩

def add (x y : Binary64) : Binary64 := ofFloat (x.toFloat + y.toFloat)
def sub (x y : Binary64) : Binary64 := ofFloat (x.toFloat - y.toFloat)
def mul (x y : Binary64) : Binary64 := ofFloat (x.toFloat * y.toFloat)
def div (x y : Binary64) : Binary64 := ofFloat (x.toFloat / y.toFloat)

/-- Sum from left to right. It starts at `-0`, the neutral element of addition. -/
def sum (xs : List Binary64) : Binary64 := xs.foldl add negativeZero

/-- The value moved into `[lo, hi]`; a NaN stays. -/
def clamp (x lo hi : Binary64) : Binary64 :=
  if x.lt lo then lo else if hi.lt x then hi else x

end Binary64

end IndexTrial
