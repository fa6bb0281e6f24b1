import IndexTrial.Binary64.Basic

/-!
Rounding of exact rationals to the nearest double, ties to the even significand, and back to whole
numbers. `ofRatio` is the only place where a decimal text or a count becomes a double.
-/

namespace IndexTrial

/-- The integer nearest to `num / den`, a tie going to the even neighbour. -/
def roundedQuotient (num den : Nat) : Nat :=
  let q := num / den
  let r := num % den
  if 2 * r < den then q
  else if den < 2 * r then q + 1
  else q + q % 2

theorem roundedQuotient_eq_or (num den : Nat) :
    roundedQuotient num den = num / den ∨ roundedQuotient num den = num / den + 1 := by
  unfold roundedQuotient
  dsimp only
  split
  · exact .inl rfl
  · split <;> omega

def Binary64.leastExponent : Int := -1074

def scaledRatio (num den : Nat) (q : Int) : Nat × Nat :=
  match q with
  | .ofNat k => (num,den * 2 ^ k)
  | .negSucc k => (num * 2 ^ (k + 1),den)

namespace Binary64

/-- The exponent under which `num / den` has a significand of 53 bits, or the least one. -/
def ratioExponent (num den : Nat) : Int :=
  let q := (num.log2 : Int) - den.log2 - 53
  let s := scaledRatio num den q
  max (if s.1 / s.2 < 2 ^ 53 then q else q + 1) leastExponent

/-- The double nearest to `num / den`; `den` is positive. A significand that rounds up to `2 ^ 53`
carries into the exponent by itself, since magnitudes are ordered as their patterns. -/
def ofRatio (negative : Bool) (num den : Nat) : Binary64 :=
  if num = 0 then ofMagnitude negative 0
  else
    let q := ratioExponent num den
    let s := scaledRatio num den q
    let m := roundedQuotient s.1 s.2
    ofMagnitude negative
      (min (if m < 2 ^ 52 then m else (q - leastExponent).toNat * 2 ^ 52 + m) infinityMagnitude)

def ofNat (n : Nat) : Binary64 := ofRatio false n 1

/-- So many nanoseconds in seconds. Whole seconds and the rest are rounded apart. -/
def secondsOfNanos (n : Nat) : Binary64 :=
  (ofNat (n / 10 ^ 9)).add ((ofNat (n % 10 ^ 9)).div (ofNat (10 ^ 9)))

/-- The double nearest to `digits * 10 ^ exponent`. Exponents far outside the range are decided
without computing the power. -/
def ofDecimal (negative : Bool) (digits : Nat) (exponent : Int) : Binary64 :=
  if digits = 0 then ofMagnitude negative 0
  else if 400 < exponent then ofMagnitude negative infinityMagnitude
  else if exponent + (digits.log2 / 3 + 1 : Nat) < -400 then ofMagnitude negative 0
  else match exponent with
    | .ofNat k => ofRatio negative (digits * 10 ^ k) 1
    | .negSucc k => ofRatio negative digits (10 ^ (k + 1))

/-- The integer part of the magnitude of a finite number. -/
def truncated (x : Binary64) : Nat :=
  match x.exponent with
  | .ofNat k => x.significand * 2 ^ k
  | .negSucc k => x.significand / 2 ^ (k + 1)

/-- Toward zero into the unsigned 64-bit range, with saturation; a NaN gives zero. -/
def toWord (x : Binary64) : Nat :=
  if x.isNaN || x.isNegative then 0
  else if x.isFinite then min x.truncated (2 ^ 64 - 1)
  else 2 ^ 64 - 1

def roundHalfAway (x : Binary64) : Binary64 :=
  match x.exponent with
  | .ofNat _ => x
  | .negSucc k =>
    if x.isFinite then
      ofRatio x.isNegative ((2 * x.significand + 2 ^ (k + 1)) / 2 ^ (k + 2)) 1
    else x

end Binary64

end IndexTrial
