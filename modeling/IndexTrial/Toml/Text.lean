import IndexTrial.Binary64.Spelling

/-!
Written forms of TOML values. A text takes the plainest of the forms that can hold it: quoted,
literal, and the two forms over several lines; only a text with control characters, or one that no
form holds as it is, gets escapes.
-/

namespace IndexTrial

namespace Toml

def longestRun (c : Char) : Nat → List Char → Nat
  | n, [] => n
  | n, d :: ds => if d = c then longestRun c (n + 1) ds else max n (longestRun c 0 ds)

/-- A control character other than the tab and the line feed. -/
def needsEscape (c : Char) : Bool :=
  (c.toNat < 32 && c ≠ '\t' && c ≠ '\n') || c.toNat = 127

/-- What decides on the form of a text. -/
structure TextTraits where
  singleQuotes : Nat
  doubleQuotes : Nat
  backslash : Bool
  newline : Bool
  control : Bool

def traits (cs : List Char) : TextTraits where
  singleQuotes := longestRun '\'' 0 cs
  doubleQuotes := longestRun '"' 0 cs
  backslash := cs.contains '\\'
  newline := cs.contains '\n'
  control := cs.any needsEscape

inductive TextForm
  | basic
  | literal
  | longBasic
  | longLiteral
  deriving DecidableEq, Repr

def TextTraits.form (t : TextTraits) : TextForm :=
  if !t.control && !t.backslash && t.doubleQuotes = 0 && !t.newline then .basic
  else if !t.control && t.singleQuotes = 0 && !t.newline then .literal
  else if !t.control && !t.backslash && t.doubleQuotes ≤ 2 then .longBasic
  else if !t.control && t.singleQuotes ≤ 2 then .longLiteral
  else if t.newline then .longBasic
  else .basic

def TextForm.delimiter : TextForm → String
  | .basic => "\""
  | .literal => "'"
  | .longBasic => "\"\"\""
  | .longLiteral => "'''"

def TextForm.isLong : TextForm → Bool
  | .basic | .literal => false
  | .longBasic | .longLiteral => true

def escapeChar (long : Bool) (c : Char) : List Char :=
  if c = '\n' then if long then ['\n'] else ['\\','n']
  else if c = '\t' then ['\\','t']
  else if c = '\r' then ['\\','r']
  else if c = '\\' then ['\\','\\']
  else if c.toNat = 8 then ['\\','b']
  else if c.toNat = 12 then ['\\','f']
  else if c.toNat < 32 || c.toNat = 127 then
    ['\\','u','0','0'] ++
      [c.toNat / 16,c.toNat % 16].map fun n => (Binary64.hexDigit n).toUpper
  else [c]

/-- The characters with escapes; of a run of quotes as many stay as may stand together. -/
def escapeText (long : Bool) : Nat → List Char → List Char
  | _, [] => []
  | run, c :: cs =>
    if c = '"' then
      if (if long then 2 else 0) < run + 1 then '\\' :: '"' :: escapeText long 0 cs
      else '"' :: escapeText long (run + 1) cs
    else escapeChar long c ++ escapeText long 0 cs

def text (s : String) : String :=
  let cs := s.toList
  let t := traits cs
  let form := t.form
  let body :=
    match form with
    | .literal | .longLiteral => s
    | .basic | .longBasic => String.ofList (escapeText form.isLong 0 cs)
  form.delimiter ++ (if form.isLong && t.newline then "\n" else "") ++ body ++ form.delimiter

end Toml

inductive TomlValue
  | text (value : String)
  | texts (values : List String)
  | int (value : Nat)
  | float (value : Binary64)
  | bool (value : Bool)

namespace Toml

/-- One item stands on the line, more on lines of their own. -/
def list : List String → String
  | [] => "[]"
  | [s] => "[" ++ text s ++ "]"
  | ss => "[\n" ++ String.join (ss.map fun s => "    " ++ text s ++ ",\n") ++ "]"

/-- Integers are signed 64-bit words. -/
def value? : TomlValue → Option String
  | .text s => some (text s)
  | .texts ss => some (list ss)
  | .int n => if n < 2 ^ 63 then some (toString n) else none
  | .float x => some x.plainWithPoint
  | .bool b => some (if b then "true" else "false")

def entryText? (key : String) (v : TomlValue) : Option String := (value? v).map fun t => s!"{key} = {t}\n"

def section? (name : String) (entries : List (String × TomlValue)) : Option String :=
  (entries.mapM fun (k,v) => entryText? k v).map fun lines => s!"[{name}]\n" ++ String.join lines

/-- Sections with an empty line between them. -/
def document? (sections : List (String × List (String × TomlValue))) : Option String :=
  (sections.mapM fun (name,entries) => section? name entries).map ("\n".intercalate ·)

end Toml

end IndexTrial
