import IndexTrial.Binary64.Shortest

/-!
The written forms of a double: with a fixed number of places, in full without an exponent, and as
a JSON number; and the reading of a written number.
-/

namespace IndexTrial

/-- Decimal digits of a number, padded on the left with zeros to a width. -/
def zeroPadded (width n : Nat) : String :=
  let digits := Nat.repr n
  String.ofList (List.replicate (width - digits.length) '0') ++ digits

namespace Binary64

def signText (x : Binary64) : String := if x.isNegative then "-" else ""

/-- The magnitude as a multiple of `10 ^ -places`, rounded from its exact value, ties to even. -/
def scaledPlaces (x : Binary64) (places : Nat) : Nat :=
  match x.exponent with
  | .ofNat k => x.significand * 2 ^ k * 10 ^ places
  | .negSucc k => roundedQuotient (x.significand * 10 ^ places) (2 ^ (k + 1))

/-- `n * 10 ^ -places` with all its places. -/
def placedDigits (n places : Nat) : String :=
  if places = 0 then Nat.repr n
  else Nat.repr (n / 10 ^ places) ++ "." ++ zeroPadded places (n % 10 ^ places)

/-- The number with exactly `places` decimals. The sign is kept even if all digits are zero. -/
def fixedPlaces (x : Binary64) (places : Nat) : String :=
  if x.isNaN then "NaN"
  else if x.isFinite then x.signText ++ placedDigits (x.scaledPlaces places) places
  else x.signText ++ "inf"

def Decimal.positional (d : Decimal) : String :=
  match d.exponent with
  | .ofNat k => Nat.repr (d.digits * 10 ^ k)
  | .negSucc k => placedDigits d.digits (k + 1)

/-- Shortest digits in full: `1`, `0.1`, `1000000000000000000000`. -/
def plain (x : Binary64) : String :=
  if x.isNaN then "NaN"
  else if !x.isFinite then x.signText ++ "inf"
  else if x.magnitude = 0 then x.signText ++ "0"
  else x.signText ++ Decimal.positional (x.shortest .up)

/-- Like `plain`, but with at least one decimal, and with the NaN in lower case and unsigned. -/
def plainWithPoint (x : Binary64) : String :=
  if x.isNaN then "nan"
  else if !x.isFinite then x.signText ++ "inf"
  else if x.magnitude = 0 then x.signText ++ "0.0"
  else
    let d := x.shortest .up
    x.signText ++ Decimal.positional d ++ if 0 ≤ d.exponent then ".0" else ""

/-- Where the JSON form leaves positional writing: the leading digit's exponent lies in
`[positionalFrom, positionalBelow)`. -/
structure ExponentStyle where
  positionalFrom : Int
  positionalBelow : Int

def jsonStyle : ExponentStyle := ⟨-5,16⟩

def scientific (d : Decimal) (leading : Int) : String :=
  let digits := Nat.repr d.digits
  let first := String.ofList (digits.toList.take 1)
  let rest := String.ofList (digits.toList.drop 1)
  first ++ (if rest.isEmpty then "" else "." ++ rest) ++ "e" ++
    (if leading < 0 then "-" else "+") ++ Nat.repr leading.natAbs

/-- The JSON number; a NaN and the infinities have none and become `null`. -/
def json (x : Binary64) : String :=
  if !x.isFinite then "null"
  else if x.magnitude = 0 then x.signText ++ "0.0"
  else
    let d := x.shortest .toEven
    let leading := d.exponent + ((Nat.repr d.digits).length : Int) - 1
    x.signText ++
      if jsonStyle.positionalFrom ≤ leading ∧ leading < jsonStyle.positionalBelow then
        Decimal.positional d ++ if 0 ≤ d.exponent then ".0" else ""
      else scientific d leading

def hexDigit (n : Nat) : Char :=
  if n < 10 then Char.ofNat (n + 48) else Char.ofNat (n + 87)

def hex (x : Binary64) : String :=
  String.ofList ((List.range 16).map fun i => hexDigit (x.bits.toNat / 16 ^ (15 - i) % 16))

end Binary64

def digitsValue (digits : List Char) : Nat :=
  digits.foldl (fun n c => 10 * n + (c.toNat - 48)) 0

theorem digitsValue_append (a b : List Char) :
    digitsValue (a ++ b) = b.foldl (fun n c => 10 * n + (c.toNat - 48)) (digitsValue a) := by
  simp [digitsValue,List.foldl_append]

def spanDigits (cs : List Char) : List Char × List Char :=
  (cs.takeWhile Char.isDigit,cs.dropWhile Char.isDigit)

theorem spanDigits_append (cs : List Char) : (spanDigits cs).1 ++ (spanDigits cs).2 = cs :=
  List.takeWhile_append_dropWhile

/-- A written magnitude: digits with an optional point and an optional exponent; at least one digit
before or after the point. -/
def readMagnitude? (negative : Bool) (cs : List Char) : Option Binary64 :=
  let (whole,rest) := spanDigits cs
  let (fraction,rest) := match rest with
    | '.' :: r => spanDigits r
    | r => ([],r)
  if whole.isEmpty && fraction.isEmpty then none
  else
    let digits := digitsValue (whole ++ fraction)
    let value (e : Int) := Binary64.ofDecimal negative digits (e - fraction.length)
    match rest with
    | [] => some (value 0)
    | e :: r =>
      if e ≠ 'e' ∧ e ≠ 'E' then none
      else
        let (minus,r) := match r with
          | '-' :: r => (true,r)
          | '+' :: r => (false,r)
          | r => (false,r)
        if r.isEmpty || !r.all Char.isDigit then none
        else
          let n : Int := digitsValue r
          some (value (if minus then -n else n))

/-- A written double: an optional sign, then a decimal number or, in any case, `inf`, `infinity` or
`nan`. -/
def Binary64.read? (text : String) : Option Binary64 :=
  let (negative,cs) := match text.toList with
    | '-' :: r => (true,r)
    | '+' :: r => (false,r)
    | r => (false,r)
  let word := String.ofList (cs.map Char.toLower)
  if word = "inf" || word = "infinity" then
    some (ofMagnitude negative infinityMagnitude)
  else if word = "nan" then
    some (ofMagnitude negative nan.magnitude)
  else readMagnitude? negative cs

/-- A written unsigned number below `2 ^ bits`; one leading `+` is allowed. -/
def readUnsigned? (bits : Nat) (text : String) : Option Nat :=
  let digits := match text.toList with
    | '+' :: r => r
    | r => r
  if digits.isEmpty || !digits.all Char.isDigit then none
  else
    let n := digitsValue digits
    if n < 2 ^ bits then some n else none

/-- A written 64-bit signed number; one leading sign is allowed. -/
def readSigned? (text : String) : Option Int :=
  let (negative,digits) := match text.toList with
    | '-' :: r => (true,r)
    | '+' :: r => (false,r)
    | r => (false,r)
  if digits.isEmpty || !digits.all Char.isDigit then none
  else
    let n := digitsValue digits
    if negative then if n ≤ 2 ^ 63 then some (-(n : Int)) else none
    else if n < 2 ^ 63 then some n else none

end IndexTrial
