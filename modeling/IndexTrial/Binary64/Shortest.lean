import IndexTrial.Binary64.Rounding

/-!
The fewest decimal digits that read back as the same double. For one, two, … seventeen digits the
two neighbours of the value on that decimal grid are tested in exact arithmetic against the
interval of reals that round to the value; the first grid with a hit wins, and of two hits the
nearer one.
-/

namespace IndexTrial

/-- A positive decimal `digits * 10 ^ exponent`. -/
structure Decimal where
  digits : Nat
  exponent : Int
  deriving DecidableEq, Repr

/-- Which neighbour is written when both are equally near. -/
inductive ShortestTie
  | toEven
  | up
  deriving DecidableEq, Repr

namespace Binary64

structure Ratio where
  num : Nat
  den : Nat

def Ratio.le (a b : Ratio) : Bool := decide (a.num * b.den ≤ b.num * a.den)
def Ratio.lt (a b : Ratio) : Bool := decide (a.num * b.den < b.num * a.den)

def Ratio.dyadic (m : Nat) (q : Int) : Ratio :=
  match q with
  | .ofNat k => ⟨m * 2 ^ k,1⟩
  | .negSucc k => ⟨m,2 ^ (k + 1)⟩

def Ratio.decimal (d : Nat) (e : Int) : Ratio :=
  match e with
  | .ofNat k => ⟨d * 10 ^ k,1⟩
  | .negSucc k => ⟨d,10 ^ (k + 1)⟩

/-- The reals that round to a finite positive double: from half a unit below it to half a unit
above, the unit below being half as wide at a power of two; the ends belong to it when the
significand is even. -/
structure RoundingInterval where
  lower : Ratio
  upper : Ratio
  closed : Bool

def roundingInterval (x : Binary64) : RoundingInterval :=
  let m := x.significand
  let q := x.exponent
  let narrow := m = 2 ^ 52 && leastExponent < q
  { lower := if narrow then .dyadic (4 * m - 1) (q - 2) else .dyadic (2 * m - 1) (q - 1)
    upper := .dyadic (2 * m + 1) (q - 1)
    closed := m % 2 = 0 }

def RoundingInterval.contains (i : RoundingInterval) (r : Ratio) : Bool :=
  if i.closed then i.lower.le r && r.le i.upper else i.lower.lt r && r.lt i.upper

/-- An exponent `e` with `10 ^ (e - 1) ≤ r < 10 ^ e`, found from an estimate by at most `fuel`
corrections. -/
def decimalPoint (r : Ratio) (e : Int) : Nat → Int
  | 0 => e
  | fuel + 1 =>
    if r.lt (.decimal 1 (e - 1)) then decimalPoint r (e - 1) fuel
    else if (Ratio.decimal 1 e).le r then decimalPoint r (e + 1) fuel
    else e

/-- Estimate of the decimal exponent from the binary one, `0.30103` being `log₁₀ 2`. -/
def decimalEstimate (x : Binary64) : Int :=
  (x.exponent + x.significand.log2) * 30103 / 100000 + 1

/-- The points of the grid `10 ^ e` just below and just above the value. -/
def gridBelow (r : Ratio) (e : Int) : Nat :=
  match e with
  | .ofNat k => r.num / (r.den * 10 ^ k)
  | .negSucc k => r.num * 10 ^ (k + 1) / r.den

/-- The better of the two grid points in the interval, if one is. -/
def gridHit (x : Binary64) (tie : ShortestTie) (e : Int) : Option Decimal :=
  let r := Ratio.dyadic x.significand x.exponent
  let i := x.roundingInterval
  let d := gridBelow r e
  let below := decide (d ≠ 0) && i.contains (.decimal d e)
  let above := i.contains (.decimal (d + 1) e)
  if below && above then
    let middle := Ratio.decimal (10 * d + 5) (e - 1)
    if r.lt middle then some ⟨d,e⟩
    else if middle.lt r then some ⟨d + 1,e⟩
    else match tie with
      | .toEven => some ⟨d + d % 2,e⟩
      | .up => some ⟨d + 1,e⟩
  else if below then some ⟨d,e⟩
  else if above then some ⟨d + 1,e⟩
  else none

def firstHit (x : Binary64) (tie : ShortestTie) (e : Int) : Nat → Decimal
  | 0 => ⟨x.significand,0⟩
  | fuel + 1 => (gridHit x tie e).getD (firstHit x tie (e - 1) fuel)

def Decimal.trimmed (d : Decimal) : Nat → Decimal
  | 0 => d
  | fuel + 1 =>
    if d.digits ≠ 0 ∧ d.digits % 10 = 0 then
      trimmed ⟨d.digits / 10,d.exponent + 1⟩ fuel
    else d

def shortest (x : Binary64) (tie : ShortestTie) : Decimal :=
  let r := Ratio.dyadic x.significand x.exponent
  let point := decimalPoint r x.decimalEstimate 8
  Decimal.trimmed (firstHit x tie (point - 1) 18) 20

end Binary64

end IndexTrial
