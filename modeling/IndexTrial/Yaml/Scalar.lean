import IndexTrial.Json.Reader
import IndexTrial.Layers.Value
import IndexTrial.Text.Search

/-!
Scalars of a YAML text: what a plain word stands for, how the lines of a scalar are folded, and the
escapes of a quoted one.
-/

namespace IndexTrial

namespace Yaml

def isSpace (c : Char) : Bool := c = ' ' || c = '\t'

def startsBlank : List Char → Bool
  | [] => true
  | c :: _ => isSpace c || c = '\n'

/-- A signed 64-bit word in a radix, an optional sign before the digits. -/
def radixWord? (radix : Nat) (cs : List Char) : Option RawValue := do
  let (negative,digits) := match cs with
    | '-' :: r => (true,r)
    | '+' :: r => (false,r)
    | r => (false,r)
  if digits.isEmpty then none
  else
    let ns ← digits.mapM Json.hexValue?
    if !ns.all (· < radix) then none
    else
      let n := ns.foldl (fun a d => radix * a + d) 0
      if negative then if n ≤ 2 ^ 63 then some (.int (-(n : Int))) else none
      else if n < 2 ^ 63 then some (.int n) else none

def prefixedWord? (cs : List Char) : Option RawValue :=
  match cs with
  | '0' :: 'x' :: r => radixWord? 16 r
  | '0' :: 'o' :: r => radixWord? 8 r
  | '+' :: r => (readSigned? (String.ofList r)).map .int
  | _ => none

/-- Words for the infinities and for NaN. They name numbers but are no written doubles. -/
def unreadable : List String :=
  [".inf",".Inf",".INF","+.inf","+.Inf","+.INF","-.inf","-.Inf","-.INF",".nan",".NAN"]

/-- The value of a plain word: nothing, a truth value, a number, or the word itself. -/
def plainValue? (word : String) : Option RawValue :=
  match prefixedWord? word.toList with
  | some v => some v
  | none =>
    match word with
    | "~" | "null" => some .nothing
    | "true" => some (.bool true)
    | "false" => some (.bool false)
    | _ =>
      match readSigned? word with
      | some i => some (.int i)
      | none =>
        if unreadable.contains word then none
        else
          match Binary64.read? word with
          | some x => some (.float x)
          | none => some (.text word)

/-- The value of a plain word under a tag. -/
def taggedValue? (tag word : String) : Option RawValue :=
  match tag with
  | "!!bool" =>
    some (if word = "true" then .bool true else if word = "false" then .bool false else .nothing)
  | "!!int" => some ((readSigned? word).elim .nothing .int)
  | "!!float" =>
    if unreadable.contains word then none else some ((Binary64.read? word).elim .nothing .float)
  | "!!null" => some .nothing
  | _ => some (.text word)

def keyName? : RawValue → Option String
  | .text s => some s
  | .int i => some i.repr
  | _ => none

/-- What joins two lines between which `empty` lines stand: a blank, or a break for each. -/
def fold (empty : Nat) : List Char := if empty = 0 then [' '] else List.replicate empty '\n'

def readCode? (width : Nat) (cs : List Char) : Option (Char × List Char) := do
  let ns ← (cs.take width).mapM Json.hexValue?
  let n := ns.foldl (fun a d => 16 * a + d) 0
  if ns.length = width && n.isValidChar then some (Char.ofNat n,cs.drop width) else none

def escapes : List (Char × Nat) :=
  [('0',0),('a',7),('b',8),('t',9),('\t',9),('n',10),('v',11),('f',12),('r',13),
    ('e',27),(' ',32),('"',34),('/',47),('\\',92),('N',0x85),('_',0xa0),
    ('L',0x2028),('P',0x2029)]

def readEscape? : List Char → Option (Char × List Char)
  | 'x' :: r => readCode? 2 r
  | 'u' :: r => readCode? 4 r
  | 'U' :: r => readCode? 8 r
  | c :: r => (escapes.lookup c).map fun n => (Char.ofNat n,r)
  | [] => none

/-- White space and line breaks at the front: the blanks before the first break, the number of
breaks, and the rest. -/
def spanBreaks (cs : List Char) : List Char × Nat × List Char :=
  let gap := cs.takeWhile fun c => isSpace c || c = '\n'
  (gap.takeWhile isSpace,gap.count '\n',cs.drop gap.length)

end Yaml

end IndexTrial
