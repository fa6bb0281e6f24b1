import IndexTrial.Binary64.Spelling
import IndexTrial.Text.Blank

/-!
Moments in UTC, to the nanosecond, and their RFC 3339 forms. A leap second is kept in the
nanoseconds: from `10 ^ 9` on they belong to second 60.
-/

namespace IndexTrial

structure Moment where
  seconds : Int
  nanos : Nat
  deriving DecidableEq, Inhabited, Repr

def Moment.ofNanos (n : Nat) : Moment := ⟨(n / 10 ^ 9 : Nat),n % 10 ^ 9⟩

structure CivilDate where
  year : Int
  month : Nat
  day : Nat
  deriving DecidableEq, Repr

namespace CivilDate

def isLeap (year : Int) : Bool := year % 4 = 0 && (year % 100 ≠ 0 || year % 400 = 0)

def monthLength (year : Int) (month : Nat) : Nat :=
  match month with
  | 2 => if isLeap year then 29 else 28
  | 4 | 6 | 9 | 11 => 30
  | _ => 31

/-- Days from 1970-01-01. The year is counted from March, so that the leap day is its last day. -/
def toDays (d : CivilDate) : Int :=
  let y := if d.month ≤ 2 then d.year - 1 else d.year
  let era := y.fdiv 400
  let yearOfEra := y - era * 400
  let shifted : Int := (d.month + 9) % 12
  let dayOfYear := (153 * shifted + 2) / 5 + d.day - 1
  era * 146097 + yearOfEra * 365 + yearOfEra / 4 - yearOfEra / 100 + dayOfYear - 719468

def ofDays (days : Int) : CivilDate :=
  let z := days + 719468
  let era := z.fdiv 146097
  let dayOfEra := z - era * 146097
  let yearOfEra := (dayOfEra - dayOfEra / 1460 + dayOfEra / 36524 - dayOfEra / 146096) / 365
  let dayOfYear := dayOfEra - (365 * yearOfEra + yearOfEra / 4 - yearOfEra / 100)
  let shifted := (5 * dayOfYear + 2) / 153
  let month := if shifted < 10 then shifted + 3 else shifted - 9
  let year := yearOfEra + era * 400 + if month ≤ 2 then 1 else 0
  ⟨year,month.toNat,(dayOfYear - (153 * shifted + 2) / 5 + 1).toNat⟩

example : (CivilDate.mk 2024 2 29).toDays = 19782 ∧ ofDays 19782 = ⟨2024,2,29⟩ := by decide

def yearInRange (year : Int) : Bool := -262143 ≤ year && year ≤ 262142

def isValid (d : CivilDate) : Bool :=
  yearInRange d.year && 1 ≤ d.month && d.month ≤ 12 && 1 ≤ d.day &&
    d.day ≤ monthLength d.year d.month

/-- Four digits, or outside `0 … 9999` a sign and at least four. -/
def yearText (year : Int) : String :=
  if 0 ≤ year ∧ year ≤ 9999 then zeroPadded 4 year.toNat
  else (if year < 0 then "-" else "+") ++ zeroPadded 4 year.natAbs

end CivilDate

namespace Moment

def date (m : Moment) : CivilDate := .ofDays (m.seconds.fdiv 86400)

def secondOfDay (m : Moment) : Nat := (m.seconds.fmod 86400).toNat

def hour (m : Moment) : Nat := m.secondOfDay / 3600
def minute (m : Moment) : Nat := m.secondOfDay / 60 % 60
def second (m : Moment) : Nat := m.secondOfDay % 60 + m.nanos / 10 ^ 9

/-- The fraction of a second in as many of 0, 3, 6 or 9 digits as it needs. -/
def fractionText (nanos : Nat) : String :=
  if nanos = 0 then ""
  else if nanos % 10 ^ 6 = 0 then "." ++ zeroPadded 3 (nanos / 10 ^ 6)
  else if nanos % 10 ^ 3 = 0 then "." ++ zeroPadded 6 (nanos / 10 ^ 3)
  else "." ++ zeroPadded 9 nanos

def localText (m : Moment) : String :=
  CivilDate.yearText m.date.year ++ "-" ++ zeroPadded 2 m.date.month ++ "-" ++
    zeroPadded 2 m.date.day ++ "T" ++ zeroPadded 2 m.hour ++ ":" ++ zeroPadded 2 m.minute ++ ":" ++
    zeroPadded 2 m.second ++ fractionText (m.nanos % 10 ^ 9)

def withOffset (m : Moment) : String := m.localText ++ "+00:00"

def zulu (m : Moment) : String := m.localText ++ "Z"

/-- The form in file names: `20240305-140709`. -/
def stamp (m : Moment) : String :=
  CivilDate.yearText m.date.year ++ zeroPadded 2 m.date.month ++ zeroPadded 2 m.date.day ++ "-" ++
    zeroPadded 2 m.hour ++ zeroPadded 2 m.minute ++ zeroPadded 2 m.second

example : (Moment.mk 1709647629 250000000).zulu = "2024-03-05T14:07:09.250Z" := by decide +kernel

/-- At least one and at most `width` digits, after white space. -/
def readField (width : Nat) (cs : List Char) : Option (Nat × List Char) :=
  let cs := trimBlankStart cs
  let digits := (cs.take width).takeWhile Char.isDigit
  if digits.isEmpty then none else some (digitsValue digits,cs.drop digits.length)

/-- A year: four digits at most, or a sign and any number of digits. -/
def readYear (cs : List Char) : Option (Int × List Char) :=
  match trimBlankStart cs with
  | '-' :: r =>
    let (digits,rest) := spanDigits r
    if digits.isEmpty then none else some (-(digitsValue digits : Int),rest)
  | '+' :: r =>
    let (digits,rest) := spanDigits r
    if digits.isEmpty then none else some ((digitsValue digits : Int),rest)
  | r => (readField 4 r).map fun (n,rest) => ((n : Int),rest)

def readMark (mark : Char) (cs : List Char) : Option (List Char) :=
  match trimBlankStart cs with
  | c :: r => if c = mark then some r else none
  | [] => none

/-- A fraction of a second; digits after the ninth do not count. -/
def readFraction (cs : List Char) : Option (Nat × List Char) :=
  match cs with
  | '.' :: r =>
    let (digits,rest) := spanDigits r
    if digits.isEmpty then none
    else
      let kept := digits.take 9
      some (digitsValue kept * 10 ^ (9 - kept.length),rest)
  | r => some (0,r)

def readPair (most : Char) : List Char → Option (Nat × List Char)
  | a :: b :: r =>
    if a.isDigit && a ≤ most && b.isDigit then some (digitsValue [a,b],r) else none
  | _ => none

/-- An offset in seconds: `Z`, `UTC`, or a sign with hours and minutes. -/
def readOffset (cs : List Char) : Option (Int × List Char) :=
  match cs with
  | 'Z' :: r | 'z' :: r => some (0,r)
  | u :: t :: c :: r' =>
    if [u,t,c].map Char.toUpper = ['U','T','C'] then some (0,r')
    else
      let signed (negative : Bool) (r : List Char) : Option (Int × List Char) := do
        let (hours,r) ← readPair '9' r
        let (minutes,r) ← readPair '5' (r.dropWhile fun c => c = ':' || isBlank c)
        let seconds : Int := hours * 3600 + minutes * 60
        if seconds < 86400 then some (if negative then -seconds else seconds,r) else none
      if u = '+' then signed false (t :: c :: r')
      else if u = '-' || u.toNat = 0x2212 then signed true (t :: c :: r')
      else none
  | _ => none

/-- A time of RFC 3339, also with a blank or a small letter for the `T`, with white space between
its parts, and with parts of fewer digits. Any offset is turned to UTC. -/
def read? (text : String) : Option Moment := do
  let (year,r) ← readYear text.toList
  let (month,r) ← readField 2 (← readMark '-' r)
  let (day,r) ← readField 2 (← readMark '-' r)
  let r ← match r with
    | 't' :: r | 'T' :: r | ' ' :: r => some r
    | _ => none
  let (hour,r) ← readField 2 r
  let (minute,r) ← readField 2 (← readMark ':' r)
  let (second,r) ← readField 2 (← readMark ':' r)
  let (nanos,r) ← readFraction r
  let (offset,r) ← readOffset (trimBlankStart r)
  let date : CivilDate := ⟨year,month,day⟩
  if !(trimBlankStart r).isEmpty || !date.isValid || hour > 23 || minute > 59 || second > 60 then
    none
  else
    let leap := second = 60
    let clock : Int := hour * 3600 + minute * 60 + if leap then 59 else second
    let m : Moment := ⟨date.toDays * 86400 + clock - offset,nanos + if leap then 10 ^ 9 else 0⟩
    if CivilDate.yearInRange m.date.year then some m else none

end Moment

end IndexTrial
