import IndexTrial.Binary64.Spelling

/-!
JSON values. Whole numbers and doubles are told apart, as `5` and `5.0` are in a text; an object
keeps the order and the repetitions of its fields.
-/

namespace IndexTrial

inductive Json where
  | null
  | bool (value : Bool)
  | int (value : Int)
  | float (value : Binary64)
  | text (value : String)
  /-- A string that names half of a surrogate pair and so is no text. -/
  | halfPair
  | array (items : List Json)
  | object (fields : List (String × Json))
  deriving Inhabited, Repr

namespace Json

def nat (n : Nat) : Json := .int n

def optional {α : Type} (encode : α → Json) : Option α → Json
  | none => .null
  | some a => encode a

/-- The escape of a character that may not stand in a string as it is. -/
def escape (c : Char) : List Char :=
  if c = '"' then ['\\','"']
  else if c = '\\' then ['\\','\\']
  else if c = '\n' then ['\\','n']
  else if c = '\t' then ['\\','t']
  else if c = '\r' then ['\\','r']
  else if c.toNat = 8 then ['\\','b']
  else if c.toNat = 12 then ['\\','f']
  else if c.toNat < 32 then
    ['\\','u','0','0',Binary64.hexDigit (c.toNat / 16),Binary64.hexDigit (c.toNat % 16)]
  else [c]

def quoted (s : String) : String :=
  "\"" ++ String.ofList (s.toList.flatMap escape) ++ "\""

inductive Layout
  /-- On one line, nothing between the tokens. -/
  | compact
  /-- One item a line, two spaces for each level. -/
  | indented

namespace Layout

def lineBreak : Layout → Nat → String
  | .compact, _ => ""
  | .indented, depth => "\n" ++ String.ofList (List.replicate (2 * depth) ' ')

def colon : Layout → String
  | .compact => ":"
  | .indented => ": "

end Layout

mutual

/-- The written form of a value at a nesting depth; `number` writes a double. -/
def render (layout : Layout) (number : Binary64 → String) (depth : Nat) : Json → String
  | .null => "null"
  | .bool b => if b then "true" else "false"
  | .int i => i.repr
  | .float x => number x
  | .text s => quoted s
  | .halfPair => "null"
  | .array [] => "[]"
  | .array (j :: js) =>
    "[" ++ layout.lineBreak (depth + 1) ++ render layout number (depth + 1) j ++
      renderItems layout number (depth + 1) js ++ layout.lineBreak depth ++ "]"
  | .object [] => "\x7b\x7d"
  | .object ((k,j) :: fs) =>
    "\x7b" ++ layout.lineBreak (depth + 1) ++ quoted k ++ layout.colon ++
      render layout number (depth + 1) j ++
      renderFields layout number (depth + 1) fs ++ layout.lineBreak depth ++ "\x7d"

def renderItems (layout : Layout) (number : Binary64 → String) (depth : Nat) : List Json → String
  | [] => ""
  | j :: js =>
    "," ++ layout.lineBreak depth ++ render layout number depth j ++
      renderItems layout number depth js

def renderFields (layout : Layout) (number : Binary64 → String) (depth : Nat) :
    List (String × Json) → String
  | [] => ""
  | (k,j) :: fs =>
    "," ++ layout.lineBreak depth ++ quoted k ++ layout.colon ++ render layout number depth j ++
      renderFields layout number depth fs

end

def pretty (j : Json) : String := render .indented Binary64.json 0 j

end Json

end IndexTrial
