import IndexTrial.Toml.Scalar
import IndexTrial.Toml.Tree

/-! Reading a TOML text. -/

namespace IndexTrial

namespace Toml

def skipSpace (cs : List Char) : List Char := cs.dropWhile isSpace

def skipComment : List Char → List Char
  | '#' :: r => r.dropWhile isPlain
  | r => r

def afterLine? (cs : List Char) : Option (List Char) :=
  match skipComment (skipSpace cs) with
  | [] => some []
  | r => afterNewline? r

/-- White space, line breaks and comments, as they may stand between the items of an array. -/
def skipTrivia : Nat → List Char → List Char
  | 0, cs => cs
  | fuel + 1, cs =>
    let r := skipComment (skipSpace cs)
    match afterNewline? r with
    | some r => skipTrivia fuel r
    | none => r

def isBareChar (c : Char) : Bool := c.isAlphanum || c = '_' || c = '-'

def readKeyPart? (cs : List Char) : Option (String × List Char) :=
  match cs with
  | '"' :: r => (readBasic? (r.length + 1) r).map fun (s,r) => (String.ofList s,r)
  | '\'' :: r => (readLiteral? r).map fun (s,r) => (String.ofList s,r)
  | _ =>
    let bare := cs.takeWhile isBareChar
    if bare.isEmpty then none else some (String.ofList bare,cs.drop bare.length)

/-- The parts of a dotted key, white space around it and its dots. -/
def readKey? : Nat → List Char → Option (List String × List Char)
  | 0, _ => none
  | fuel + 1, cs => do
    let (k,r) ← readKeyPart? (skipSpace cs)
    match skipSpace r with
    | '.' :: r => do
      let (ks,r) ← readKey? fuel r
      return (k :: ks,r)
    | r => return ([k],r)

def key? (cs : List Char) : Option (List String × List Char) := readKey? (cs.length + 1) cs

def deepest : Nat := 80

mutual

/-- A value at the front of a text, at most `depth` levels deep. -/
def readValue? (depth fuel : Nat) (cs : List Char) : Option (RawValue × List Char) :=
  match fuel with
  | 0 => none
  | fuel + 1 =>
    match cs with
    | '[' :: r =>
      if depth = 0 then none
      else do
        let (vs,r) ← readItems? (depth - 1) fuel r
        return (.list vs,r)
    | '\x7b' :: r =>
      if depth = 0 then none
      else
        match skipSpace r with
        | '\x7d' :: r => some (.table [],r)
        | r => do
          let (es,r) ← readPairs? (depth - 1) fuel [] r
          return (.table (entriesToRaw es),r)
    | '"' :: _ | '\'' :: _ => (readText? cs).map fun (s,r) => (.text s,r)
    | _ =>
      let (word,r) := spanWord cs
      (readWord? word).map (·,r)

def readItems? (depth fuel : Nat) (cs : List Char) : Option (List RawValue × List Char) :=
  match fuel with
  | 0 => none
  | fuel + 1 =>
    match skipTrivia cs.length cs with
    | ']' :: r => some ([],r)
    | r => do
      let (v,r) ← readValue? depth fuel r
      match skipTrivia r.length r with
      | ',' :: r => do
        let (vs,r) ← readItems? depth fuel r
        return (v :: vs,r)
      | ']' :: r => return ([v],r)
      | _ => none

/-- The entries of a table in braces, all on one line. -/
def readPairs? (depth fuel : Nat) (es : Entries) (cs : List Char) :
    Option (Entries × List Char) :=
  match fuel with
  | 0 => none
  | fuel + 1 => do
    let (ks,r) ← key? cs
    let r ← readMark? ['='] r
    let (v,r) ← readValue? depth fuel (skipSpace r)
    let es ← es.addDotted? v ks
    match skipSpace r with
    | ',' :: r => readPairs? depth fuel es r
    | '\x7d' :: r => return (es,r)
    | _ => none

end

/-- A text as far as it is read: its tables, and the path of the header that holds. -/
structure Progress where
  entries : Entries := []
  path : List String := []

namespace Progress

def header? (p : Progress) (cs : List Char) : Option (Progress × List Char) :=
  match cs with
  | '[' :: r => do
    let (ks,r) ← key? r
    let k ← ks.getLast?
    let r ← (readMark? [']'] r).bind (readMark? [']'])
    let es ← p.entries.under? (Entries.openElement? k) ks.dropLast
    return (⟨es,ks⟩,r)
  | r => do
    let (ks,r) ← key? r
    let k ← ks.getLast?
    let r ← readMark? [']'] r
    let es ← p.entries.under? (Entries.openTable? k) ks.dropLast
    return (⟨es,ks⟩,r)

def pair? (p : Progress) (cs : List Char) : Option (Progress × List Char) := do
  let (ks,r) ← key? cs
  let r ← readMark? ['='] r
  let (v,r) ← readValue? deepest (r.length + 1) (skipSpace r)
  let es ← p.entries.under? (Entries.addDotted? v ks) p.path
  return (⟨es,p.path⟩,r)

end Progress

/-- Line by line. -/
def readLines? : Nat → Progress → List Char → Option Progress
  | 0, _, _ => none
  | fuel + 1, p, cs =>
    match skipSpace cs with
    | [] => some p
    | '[' :: r => do
      let (p,r) ← p.header? r
      readLines? fuel p (← afterLine? r)
    | c :: r =>
      if c = '#' || c = '\n' || c = '\r' then do
        readLines? fuel p (← afterLine? (c :: r))
      else do
        let (p,r) ← p.pair? (c :: r)
        readLines? fuel p (← afterLine? r)

def read? (text : String) : Option (List (String × RawValue)) :=
  let cs := text.toList
  (readLines? (cs.length + 1) {} cs).map fun p => entriesToRaw p.entries

end Toml

end IndexTrial
