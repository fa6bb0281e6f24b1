import IndexTrial.Json.Basic

/-!
Reading a JSON text. The reader follows the grammar strictly: no comments, no trailing commas, no
control characters inside strings, nothing but white space after the value. A number beyond the
range of doubles is read as infinite, a string with half a surrogate pair as `halfPair`; whether
either matters is for the use of the value to say.
-/

namespace IndexTrial

namespace Json

def isSpace (c : Char) : Bool := c = ' ' || c = '\n' || c = '\t' || c = '\r'

def skipSpace (cs : List Char) : List Char := cs.dropWhile isSpace

def hexValue? (c : Char) : Option Nat :=
  if '0' ≤ c && c ≤ '9' then some (c.toNat - 48)
  else if 'a' ≤ c && c ≤ 'f' then some (c.toNat - 87)
  else if 'A' ≤ c && c ≤ 'F' then some (c.toNat - 55)
  else none

def hexQuad? (a b c d : Char) : Option Nat := do
  return 4096 * (← hexValue? a) + 256 * (← hexValue? b) + 16 * (← hexValue? c) + (← hexValue? d)

/-- What a string holds so far: its characters in reverse, or nothing once a half pair occurred. -/
abbrev Partial := Option (List Char)

def Partial.push (p : Partial) (c : Char) : Partial := p.map (c :: ·)

def readString (acc : Partial) : List Char → Option (Partial × List Char)
  | '"' :: rest => some (acc.map List.reverse,rest)
  | '\\' :: 'u' :: a :: b :: c :: d :: rest =>
    match hexQuad? a b c d with
    | none => none
    | some high =>
      if 0xd800 ≤ high ∧ high < 0xdc00 then
        match _h : rest with
        | '\\' :: 'u' :: a :: b :: c :: d :: rest' =>
          match hexQuad? a b c d with
          | none => none
          | some low =>
            if 0xdc00 ≤ low ∧ low < 0xe000 then
              readString (acc.push (Char.ofNat (0x10000 + (high - 0xd800) * 1024 + (low - 0xdc00))))
                rest'
            else readString none rest
        | _ => readString none rest
      else if 0xdc00 ≤ high ∧ high < 0xe000 then readString none rest
      else readString (acc.push (Char.ofNat high)) rest
  | '\\' :: e :: rest =>
    match e with
    | '"' => readString (acc.push '"') rest
    | '\\' => readString (acc.push '\\') rest
    | '/' => readString (acc.push '/') rest
    | 'b' => readString (acc.push (Char.ofNat 8)) rest
    | 'f' => readString (acc.push (Char.ofNat 12)) rest
    | 'n' => readString (acc.push '\n') rest
    | 'r' => readString (acc.push '\r') rest
    | 't' => readString (acc.push '\t') rest
    | _ => none
  | c :: rest => if c.toNat < 32 then none else readString (acc.push c) rest
  | [] => none
  termination_by cs => cs.length
  decreasing_by all_goals (try subst _h) <;> simp <;> omega

/-- A whole number in the 64-bit range, unsigned or signed, stays one; `-0` is a double. -/
def wholeNumber (negative : Bool) (n : Nat) : Json :=
  if negative then
    if n = 0 then .float .negativeZero
    else if n ≤ 2 ^ 63 then .int (-(n : Int))
    else .float (.ofDecimal true n 0)
  else if n < 2 ^ 64 then .int n
  else .float (.ofDecimal false n 0)

def readExponent (cs : List Char) : Option (Int × List Char) :=
  let (minus,cs) := match cs with
    | '-' :: r => (true,r)
    | '+' :: r => (false,r)
    | r => (false,r)
  let (digits,rest) := spanDigits cs
  if digits.isEmpty then none
  else
    let n : Int := digitsValue digits
    some (if minus then -n else n,rest)

def readNumber (negative : Bool) (cs : List Char) : Option (Json × List Char) :=
  let (whole,rest) := spanDigits cs
  if whole.isEmpty || (whole.length ≠ 1 && whole.head? = some '0') then none
  else
    let finish (fraction : List Char) (rest : List Char) : Option (Json × List Char) :=
      let value (e : Int) :=
        Binary64.ofDecimal negative (digitsValue (whole ++ fraction)) (e - fraction.length)
      match rest with
      | 'e' :: r | 'E' :: r => do
        let (e,r) ← readExponent r
        return (.float (value e),r)
      | r =>
        if fraction.isEmpty then some (wholeNumber negative (digitsValue whole),r)
        else some (.float (value 0),r)
    match rest with
    | '.' :: r =>
      let (fraction,r) := spanDigits r
      if fraction.isEmpty then none else finish fraction r
    | r => finish [] r

mutual

/-- A value at the front of a text, and the rest. The fuel bounds the nesting and the number of
items; the length of the text is enough. -/
def readValue (fuel : Nat) (cs : List Char) : Option (Json × List Char) :=
  match fuel with
  | 0 => none
  | fuel + 1 =>
    match skipSpace cs with
    | 'n' :: 'u' :: 'l' :: 'l' :: r => some (.null,r)
    | 't' :: 'r' :: 'u' :: 'e' :: r => some (.bool true,r)
    | 'f' :: 'a' :: 'l' :: 's' :: 'e' :: r => some (.bool false,r)
    | '"' :: r => do
      let (s,r) ← readString (some []) r
      return (match s with | some s => .text (String.ofList s) | none => .halfPair,r)
    | '[' :: r =>
      match skipSpace r with
      | ']' :: r => some (.array [],r)
      | r => do
        let (items,r) ← readItems fuel r
        return (.array items,r)
    | '\x7b' :: r =>
      match skipSpace r with
      | '\x7d' :: r => some (.object [],r)
      | r => do
        let (fields,r) ← readFields fuel r
        return (.object fields,r)
    | '-' :: r => readNumber true r
    | r => readNumber false r

def readItems (fuel : Nat) (cs : List Char) : Option (List Json × List Char) :=
  match fuel with
  | 0 => none
  | fuel + 1 => do
    let (j,r) ← readValue fuel cs
    match skipSpace r with
    | ',' :: r =>
      let (js,r) ← readItems fuel r
      return (j :: js,r)
    | ']' :: r => return ([j],r)
    | _ => none

def readFields (fuel : Nat) (cs : List Char) : Option (List (String × Json) × List Char) :=
  match fuel with
  | 0 => none
  | fuel + 1 =>
    match skipSpace cs with
    | '"' :: r => do
      let (k,r) ← readString (some []) r
      let k ← k
      match skipSpace r with
      | ':' :: r =>
        let (j,r) ← readValue fuel r
        match skipSpace r with
        | ',' :: r =>
          let (fs,r) ← readFields fuel r
          return ((String.ofList k,j) :: fs,r)
        | '\x7d' :: r => return ([(String.ofList k,j)],r)
        | _ => none
      | _ => none
    | _ => none

end

def read? (text : String) : Option Json := do
  let cs := text.toList
  let (j,rest) ← readValue (cs.length + 1) cs
  if (skipSpace rest).isEmpty then some j else none

end Json

end IndexTrial
