import IndexTrial.Json.Reader
import IndexTrial.Layers.Value
import IndexTrial.Moment
import IndexTrial.Text.Search

/-!
Scalars of a TOML text: the four forms of strings, and the words that are numbers, truth values,
dates and times. A date or a time is read as its usual text.
-/

namespace IndexTrial

namespace Toml

def isSpace (c : Char) : Bool := c = ' ' || c = '\t'

/-- A character that may stand in a comment or, quotes aside, in a literal. -/
def isPlain (c : Char) : Bool := c = '\t' || (32 ≤ c.toNat && c.toNat ≠ 127)

def afterNewline? : List Char → Option (List Char)
  | '\n' :: r => some r
  | '\r' :: '\n' :: r => some r
  | _ => none

def scalarOf? (digits : List Char) : Option Char := do
  let ns ← digits.mapM Json.hexValue?
  let n := ns.foldl (fun a d => 16 * a + d) 0
  if n.isValidChar then some (Char.ofNat n) else none

def readEscape? : List Char → Option (Char × List Char)
  | 'b' :: r => some (Char.ofNat 8,r)
  | 't' :: r => some ('\t',r)
  | 'n' :: r => some ('\n',r)
  | 'f' :: r => some (Char.ofNat 12,r)
  | 'r' :: r => some ('\r',r)
  | '"' :: r => some ('"',r)
  | '\\' :: r => some ('\\',r)
  | 'u' :: r => if r.length < 4 then none else (scalarOf? (r.take 4)).map (·,r.drop 4)
  | 'U' :: r => if r.length < 8 then none else (scalarOf? (r.take 8)).map (·,r.drop 8)
  | _ => none

/-- A quoted string after its quote. Like all readers here it has fuel for the characters. -/
def readBasic? : Nat → List Char → Option (List Char × List Char)
  | 0, _ => none
  | fuel + 1, cs =>
    match cs with
    | '"' :: r => some ([],r)
    | '\\' :: r => do
      let (c,r) ← readEscape? r
      let (s,r) ← readBasic? fuel r
      return (c :: s,r)
    | c :: r =>
      if isPlain c then do
        let (s,r) ← readBasic? fuel r
        return (c :: s,r)
      else none
    | [] => none

def readLiteral? (cs : List Char) : Option (List Char × List Char) :=
  let s := cs.takeWhile fun c => isPlain c && c ≠ '\''
  match cs.drop s.length with
  | '\'' :: r => some (s,r)
  | _ => none

/-- A run of quotes inside a string over several lines: it ends the string from three on, and up to
two more belong to the text. -/
def closingQuotes? (quote : Char) (cs : List Char) : Option (List Char × List Char) :=
  let n := (cs.takeWhile (· = quote)).length
  if 3 ≤ n && n ≤ 5 then some (List.replicate (n - 3) quote,cs.drop n) else none

def skipBreaks (cs : List Char) : List Char :=
  cs.dropWhile fun c => isSpace c || c = '\n' || c = '\r'

def restIsBlank (cs : List Char) : Bool := (afterNewline? (cs.dropWhile isSpace)).isSome

/-- A string over several lines after its opening quotes. -/
def readLong? (quote : Char) (escapes : Bool) : Nat → List Char → Option (List Char × List Char)
  | 0, _ => none
  | fuel + 1, cs =>
    match closingQuotes? quote cs, afterNewline? cs, cs with
    | some done, _, _ => some done
    | none, some r, _ => do
      let (s,r) ← readLong? quote escapes fuel r
      return ('\n' :: s,r)
    | none, none, c :: r =>
      if c = '\\' && escapes then
        if restIsBlank r then readLong? quote escapes fuel (skipBreaks r)
        else do
          let (c,r) ← readEscape? r
          let (s,r) ← readLong? quote escapes fuel r
          return (c :: s,r)
      else if c = quote && 5 < (cs.takeWhile (· = quote)).length then none
      else if isPlain c then do
        let (s,r) ← readLong? quote escapes fuel r
        return (c :: s,r)
      else none
    | none, none, [] => none

def readText? (cs : List Char) : Option (String × List Char) :=
  let long (quote : Char) (r : List Char) :=
    readLong? quote (quote = '"') (r.length + 1) ((afterNewline? r).getD r)
  let result :=
    match cs with
    | '"' :: '"' :: '"' :: r => long '"' r
    | '\'' :: '\'' :: '\'' :: r => long '\'' r
    | '"' :: r => readBasic? (r.length + 1) r
    | '\'' :: r => readLiteral? r
    | _ => none
  result.map fun (s,r) => (String.ofList s,r)

/-- Digits in which single underscores may stand between two digits, without them. -/
def groupedDigits? (isDigit : Char → Bool) (cs : List Char) : Option (List Char) :=
  let groups := splitAtChar '_' cs
  if groups.all fun g => !g.isEmpty && g.all isDigit then some groups.flatten else none

def splitSign : List Char → Bool × List Char
  | '-' :: r => (true,r)
  | '+' :: r => (false,r)
  | r => (false,r)

def inWord? (negative : Bool) (n : Nat) : Option RawValue :=
  if negative then if n ≤ 2 ^ 63 then some (.int (-(n : Int))) else none
  else if n < 2 ^ 63 then some (.int n) else none

def radixInteger? (radix : Nat) (cs : List Char) : Option RawValue := do
  let digits ← groupedDigits? (fun c => ((Json.hexValue? c).any (· < radix))) cs
  let ns ← digits.mapM Json.hexValue?
  inWord? false (ns.foldl (fun a d => radix * a + d) 0)

def decimalDigits? (cs : List Char) : Option (List Char) :=
  if cs.length ≠ 1 && cs.head? = some '0' then none else groupedDigits? Char.isDigit cs

def readInteger? (cs : List Char) : Option RawValue :=
  match cs with
  | '0' :: 'x' :: r => radixInteger? 16 r
  | '0' :: 'o' :: r => radixInteger? 8 r
  | '0' :: 'b' :: r => radixInteger? 2 r
  | _ =>
    let (negative,digits) := splitSign cs
    (decimalDigits? digits).bind fun ds => inWord? negative (digitsValue ds)

def readExponent? (cs : List Char) : Option Int :=
  let (negative,digits) := splitSign cs
  (groupedDigits? Char.isDigit digits).map fun ds =>
    if negative then -(digitsValue ds : Int) else digitsValue ds

/-- A number with a fraction or an exponent, or one of the words for the others. A positive number
beyond the range is an error. -/
def readFloat? (cs : List Char) : Option RawValue :=
  let (negative,rest) := splitSign cs
  if rest = "inf".toList then some (.float (.ofMagnitude negative Binary64.infinityMagnitude))
  else if rest = "nan".toList then
    some (.float (.ofMagnitude negative Binary64.nan.magnitude))
  else
    let mantissa := rest.takeWhile fun c => c ≠ 'e' && c ≠ 'E'
    let whole := mantissa.takeWhile (· ≠ '.')
    let fraction? :=
      match mantissa.drop whole.length with
      | [] => some []
      | _ :: f => groupedDigits? Char.isDigit f
    let exponent? :=
      match rest.drop mantissa.length with
      | [] => if mantissa.length = whole.length then none else some 0
      | _ :: e => readExponent? e
    match decimalDigits? whole, fraction?, exponent? with
    | some w, some f, some e =>
      let x := Binary64.ofDecimal negative (digitsValue (w ++ f)) (e - f.length)
      if x = .infinity then none else some (.float x)
    | _, _, _ => none

def readPart? (width least most : Nat) (cs : List Char) : Option (Nat × List Char) :=
  let digits := cs.take width
  let n := digitsValue digits
  if digits.length = width && digits.all Char.isDigit && least ≤ n && n ≤ most then
    some (n,cs.drop width)
  else none

def readMark? (marks : List Char) : List Char → Option (List Char)
  | c :: r => if marks.contains c then some r else none
  | [] => none

def readDate? (cs : List Char) : Option (String × List Char) := do
  let (y,r) ← readPart? 4 0 9999 cs
  let (m,r) ← readPart? 2 1 12 (← readMark? ['-'] r)
  let (d,r) ← readPart? 2 1 (CivilDate.monthLength y m) (← readMark? ['-'] r)
  return (s!"{zeroPadded 4 y}-{zeroPadded 2 m}-{zeroPadded 2 d}",r)

/-- At most nine places of a fraction, without zeros at the end. -/
def fractionPlaces (digits : List Char) : String :=
  let kept := (((digits.take 9).reverse.dropWhile (· = '0')).reverse)
  if kept.isEmpty then "" else "." ++ String.ofList kept

def readTime? (cs : List Char) : Option (String × List Char) := do
  let (h,r) ← readPart? 2 0 23 cs
  let (m,r) ← readPart? 2 0 59 (← readMark? [':'] r)
  let (s,r) ← readPart? 2 0 60 (← readMark? [':'] r)
  let base := s!"{zeroPadded 2 h}:{zeroPadded 2 m}:{zeroPadded 2 s}"
  match r with
  | '.' :: f =>
    let (digits,r) := spanDigits f
    if digits.isEmpty then none else return (base ++ fractionPlaces digits,r)
  | r => return (base,r)

def readOffset? : List Char → Option String
  | [] => some ""
  | ['Z'] => some "Z"
  | ['z'] => some "Z"
  | c :: r => do
    if c ≠ '+' && c ≠ '-' then none
    else
      let (h,r) ← readPart? 2 0 23 r
      let (m,r) ← readPart? 2 0 59 (← readMark? [':'] r)
      if r.isEmpty then some (String.singleton c ++ s!"{zeroPadded 2 h}:{zeroPadded 2 m}")
      else none

def readMoment? (cs : List Char) : Option RawValue :=
  match readDate? cs with
  | some (date,[]) => some (.text date)
  | some (date,r) => do
    let (time,r) ← readTime? (← readMark? ['T','t',' '] r)
    let offset ← readOffset? r
    return .text (date ++ "T" ++ time ++ offset)
  | none =>
    match readTime? cs with
    | some (time,[]) => some (.text time)
    | _ => none

def isWordChar (c : Char) : Bool :=
  c.isAlphanum || c = '_' || c = '+' || c = '-' || c = '.' || c = ':'

/-- A word and the rest; a time may follow a date after one blank. -/
def spanWord (cs : List Char) : List Char × List Char :=
  let word := cs.takeWhile isWordChar
  match readDate? word, cs.drop word.length with
  | some (_,[]), ' ' :: r =>
    let time := r.takeWhile isWordChar
    if (readPart? 2 0 99 time).any (fun p => p.2.head? = some ':') then
      (word ++ ' ' :: time,r.drop time.length)
    else (word,' ' :: r)
  | _, r => (word,r)

def readWord? (cs : List Char) : Option RawValue :=
  if cs = "true".toList then some (.bool true)
  else if cs = "false".toList then some (.bool false)
  else
    match readMoment? cs with
    | some v => some v
    | none =>
      match readInteger? cs with
      | some v => some v
      | none => readFloat? cs

end Toml

end IndexTrial
