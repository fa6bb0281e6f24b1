import IndexTrial.Yaml.Scalar

/-!
Reading a YAML text: blocks by indentation, flow collections, plain and quoted scalars over several
lines, block scalars, anchors and tags. A text is one document whose root is a table.
-/

namespace IndexTrial

namespace Yaml

/-- A place in a text: its column, what follows, and the anchors seen so far. -/
structure Spot where
  column : Nat
  rest : List Char
  anchors : List (String × RawValue) := []

namespace Spot

def advance (s : Spot) (n : Nat) : Spot :=
  let passed := s.rest.take n
  let lastLine := passed.reverse.takeWhile (· ≠ '\n')
  { s with
    column := if lastLine.length = passed.length then s.column + passed.length
      else lastLine.length
    rest := s.rest.drop n }

def upTo (s : Spot) (rest : List Char) : Spot := s.advance (s.rest.length - rest.length)

def isMarker (s : Spot) : Bool :=
  s.column = 0 &&
    ["---","..."].any fun m => m.toList.isPrefixOf s.rest && startsBlank (s.rest.drop 3)

def isEnd (s : Spot) : Bool := s.rest.isEmpty || s.isMarker

def isDash (s : Spot) : Bool :=
  match s.rest with
  | '-' :: r => startsBlank r && !s.isMarker
  | _ => false

/-- Past white space, comments and line breaks; whether a line broke. Tabs do not indent. -/
def skip (tabs : Bool) : Nat → Bool → Spot → Bool × Spot
  | 0, broke, s => (broke,s)
  | fuel + 1, broke, s =>
    match s.rest with
    | ' ' :: _ => skip tabs fuel broke (s.advance 1)
    | '\t' :: _ => if tabs || !broke then skip tabs fuel broke (s.advance 1) else (broke,s)
    | '\n' :: _ => skip tabs fuel true (s.advance 1)
    | '#' :: r => skip tabs fuel broke (s.advance ((r.takeWhile (· ≠ '\n')).length + 1))
    | _ => (broke,s)

def skipBlock (s : Spot) : Bool × Spot := s.skip false (s.rest.length + 1) (s.column = 0)

def skipFlow (s : Spot) : Spot := (s.skip true (s.rest.length + 1) false).2

def skipSpaces (s : Spot) : Spot := s.advance (s.rest.takeWhile isSpace).length

def bind (s : Spot) (anchor : Option String) (v : RawValue) : Spot :=
  match anchor with
  | some a => { s with anchors := (a,v) :: s.anchors }
  | none => s

end Spot

def isFlowMark (c : Char) : Bool := c = ',' || c = '[' || c = ']' || c = '\x7b' || c = '\x7d'

/-- Whether a colon in front of `r` separates a key from its value. -/
def isSeparator (flow : Bool) (r : List Char) : Bool :=
  startsBlank r || (flow && r.head?.any isFlowMark)

def spanPlain (flow : Bool) : List Char → List Char
  | [] => []
  | c :: r =>
    if isSpace c || c = '\n' || (flow && isFlowMark c) || (c = ':' && isSeparator flow r) then []
    else c :: spanPlain flow r

/-- The rest of a plain scalar: more runs on the same line, and on lines that are indented more
than `indent`. -/
def readPlain (flow : Bool) (indent : Int) : Nat → Spot → List Char → List Char × Spot
  | 0, s, acc => (acc,s)
  | fuel + 1, s, acc =>
    let (blanks,breaks,rest) := spanBreaks s.rest
    let next := s.upTo rest
    let run := spanPlain flow rest
    if run.isEmpty || run.head? = some '#' || next.isMarker ||
        (0 < breaks && !flow && next.column ≤ indent) then (acc,s)
    else
      let glue := if breaks = 0 then blanks else fold (breaks - 1)
      readPlain flow indent fuel (next.advance run.length) (acc ++ glue ++ run)

def plain (flow : Bool) (indent : Int) (s : Spot) : List Char × Spot :=
  let run := spanPlain flow s.rest
  readPlain flow indent s.rest.length (s.advance run.length) run

def startsPlain (flow : Bool) : List Char → Bool
  | [] => false
  | c :: r =>
    if c = '-' || c = '?' || c = ':' then
      !startsBlank r && !(flow && r.head?.any isFlowMark)
    else
      !(isSpace c || c = '\n' || isFlowMark c ||
        ['#','&','*','!','|','>','\'','"','%','@','\x60'].contains c)

def readQuoted? (quote : Char) : Nat → List Char → Option (List Char × List Char)
  | 0, _ => none
  | fuel + 1, cs =>
    match cs with
    | [] => none
    | c :: r =>
      if c = quote then
        match r with
        | d :: r' =>
          if quote = '\'' && d = '\'' then
            (readQuoted? quote fuel r').map fun (s,r) => ('\'' :: s,r)
          else some ([],r)
        | [] => some ([],r)
      else if quote = '"' && c = '\\' then
        match r with
        | '\n' :: r' => readQuoted? quote fuel (spanBreaks r').2.2
        | _ => do
          let (e,r) ← readEscape? r
          let (s,r) ← readQuoted? quote fuel r
          return (e :: s,r)
      else if isSpace c || c = '\n' then
        let (blanks,breaks,rest) := spanBreaks cs
        let glue := if breaks = 0 then blanks else fold (breaks - 1)
        (readQuoted? quote fuel rest).map fun (s,r) => (glue ++ s,r)
      else (readQuoted? quote fuel r).map fun (s,r) => (c :: s,r)

/-- A quoted scalar that starts here; whether it stands on one line. -/
def quoted? (s : Spot) : Option (List Char × Bool × Spot) :=
  match s.rest with
  | c :: r =>
    if c = '"' || c = '\'' then do
      let (text,rest) ← readQuoted? c (r.length + 1) r
      let oneLine := !(s.rest.take (s.rest.length - rest.length)).contains '\n'
      return (text,oneLine,s.upTo rest)
    else none
  | [] => none

/-- How the end of a block scalar is kept. -/
inductive Chomping
  | strip
  | clip
  | keep

/-- The header of a block scalar: folded or not, its chomping, and the indentation if it is given.
The rest starts at the next line. -/
def blockHeader? (cs : List Char) : Option (Bool × Chomping × Option Nat × List Char) :=
  match cs with
  | c :: r =>
    let marks := r.takeWhile fun c => c = '+' || c = '-' || c.isDigit
    let signs := marks.filter fun c => !c.isDigit
    let digits := marks.filter Char.isDigit
    let after := (r.drop marks.length).dropWhile isSpace
    let after := if after.head? = some '#' then after.dropWhile (· ≠ '\n') else after
    let chomping := match signs with
      | [] => some Chomping.clip
      | ['+'] => some .keep
      | ['-'] => some .strip
      | _ => none
    let indent := match digits with
      | [] => some none
      | [d] => if d = '0' then none else some (some (d.toNat - 48))
      | _ => none
    match chomping, indent, after with
    | some chomping, some indent, [] => some (c = '>',chomping,indent,[])
    | some chomping, some indent, '\n' :: rest => some (c = '>',chomping,indent,rest)
    | _, _, _ => none
  | [] => none

/-- Indentation of the first line with more than blanks on it; blank lines before it count too. -/
def firstIndent (most : Nat) : List (List Char) → Nat
  | [] => most
  | line :: lines =>
    let n := (line.takeWhile (· = ' ')).length
    if n = line.length then firstIndent (max most n) lines else max most n

/-- A block scalar while it is read: its text, the break after its last line, and the number of
empty lines since. -/
structure BlockText where
  text : List Char := []
  pending : Bool := false
  empty : Nat := 0
  afterBlank : Bool := false

/-- One more line, its indentation taken off. -/
def BlockText.addLine (folded : Bool) (b : BlockText) (line : List Char) : BlockText :=
  let startsBlank := line.head?.any isSpace
  let glue :=
    if !b.pending then []
    else if folded && !b.afterBlank && !startsBlank then if b.empty = 0 then [' '] else []
    else ['\n']
  { text := b.text ++ glue ++ List.replicate b.empty '\n' ++ line
    pending := true, empty := 0, afterBlank := startsBlank }

def BlockText.finish (b : BlockText) (ended : Bool) : Chomping → List Char
  | .strip => b.text
  | .clip => b.text ++ if b.pending && ended then ['\n'] else []
  | .keep =>
    b.text ++ (if b.pending && ended then ['\n'] else []) ++ List.replicate b.empty '\n'

/-- The lines of a block scalar and those that follow it. The last line of a text without a break
at its end has none. -/
def blockLines (folded : Bool) (indent : Nat) :
    BlockText → List (List Char) → BlockText × Bool × List (List Char)
  | b, [] => (b,false,[])
  | b, [[]] => (b,true,[[]])
  | b, line :: lines =>
    let n := (line.takeWhile (· = ' ')).length
    if n = line.length && n ≤ indent then
      blockLines folded indent { b with empty := b.empty + 1 } lines
    else if n < indent then (b,true,line :: lines)
    else
      let b := b.addLine folded (line.drop indent)
      if lines.isEmpty then (b,false,[]) else blockLines folded indent b lines

def blockScalar? (parent : Int) (s : Spot) : Option (List Char × Spot) := do
  let (folded,chomping,given,rest) ← blockHeader? s.rest
  let lines := splitAtChar '\n' rest
  let base := (parent + 1).toNat
  let indent := match given with
    | some n => if parent < 0 then n else parent.toNat + n
    | none => max (max (firstIndent 0 lines) base) 1
  let (b,ended,left) := blockLines folded indent {} lines
  let remaining := "\n".toList.intercalate left
  return (b.finish ended chomping,{ s.upTo remaining with column := 0 })

def spanWord (flow : Bool) (cs : List Char) : List Char :=
  cs.takeWhile fun c => !(isSpace c || c = '\n' || (flow && isFlowMark c))

structure Properties where
  anchor : Option String := none
  tag : Option String := none

def property? (flow : Bool) (p : Properties) (s : Spot) : Option (Properties × Spot) :=
  match s.rest with
  | '&' :: r =>
    let word := spanWord flow r
    if word.isEmpty then none
    else some ({ p with anchor := some (String.ofList word) },s.advance (word.length + 1))
  | '!' :: r =>
    let word := spanWord flow r
    some ({ p with tag := some (String.ofList ('!' :: word)) },s.advance (word.length + 1))
  | _ => none

def plainNode? (p : Properties) (cs : List Char) : Option RawValue :=
  match p.tag with
  | some tag => taggedValue? tag (String.ofList cs)
  | none => plainValue? (String.ofList cs)

/-- An alias: the value of an anchor seen before. -/
def alias? (flow : Bool) (s : Spot) : Option (RawValue × Spot) :=
  match s.rest with
  | '*' :: r =>
    let word := spanWord flow r
    (s.anchors.lookup (String.ofList word)).map (·,s.advance (word.length + 1))
  | _ => none

/-- The value of a node without contents. -/
def emptyNode (p : Properties) : RawValue :=
  if p.anchor.isSome || p.tag.isSome then .text "" else .nothing

mutual

def flowNode? (fuel : Nat) (p : Properties) (s : Spot) : Option (RawValue × Spot) :=
  match fuel with
  | 0 => none
  | fuel + 1 =>
    let s := s.skipFlow
    match s.rest with
    | '[' :: _ => do
      let (vs,s) ← flowItems? fuel (s.advance 1)
      return (.list vs,s.bind p.anchor (.list vs))
    | '\x7b' :: _ => do
      let (es,s) ← flowEntries? fuel [] (s.advance 1)
      return (.table es,s.bind p.anchor (.table es))
    | '*' :: _ => alias? true s
    | _ =>
      match property? true p s with
      | some (p,s) => flowNode? fuel p s
      | none =>
        match quoted? s with
        | some (text,_,s) =>
          let v := RawValue.text (String.ofList text)
          some (v,s.bind p.anchor v)
        | none =>
          if startsPlain true s.rest then do
            let (text,s) := plain true 0 s
            let v ← plainNode? p text
            return (v,s.bind p.anchor v)
          else if s.rest.head?.any (fun c => c = ',' || c = ']' || c = '\x7d' || c = ':') then
            some (emptyNode p,s)
          else none

/-- The items of a sequence in brackets up to the closing one. A pair is a table of its own. -/
def flowItems? (fuel : Nat) (s : Spot) : Option (List RawValue × Spot) :=
  match fuel with
  | 0 => none
  | fuel + 1 =>
    let s := s.skipFlow
    match s.rest with
    | ']' :: _ => some ([],s.advance 1)
    | ',' :: _ => none
    | _ => do
      let (v,t) ← flowNode? fuel {} s
      let (v,t) ← flowPair? fuel v (s.rest.head?.any fun c => c = '"' || c = '\'') t
      let t := t.skipFlow
      match t.rest with
      | ',' :: _ => do
        let (vs,t) ← flowItems? fuel (t.advance 1)
        return (v :: vs,t)
      | ']' :: _ => return ([v],t.advance 1)
      | _ => none

/-- The item itself, or, with a value behind a colon, the table of the two. -/
def flowPair? (fuel : Nat) (key : RawValue) (wasQuoted : Bool) (s : Spot) :
    Option (RawValue × Spot) :=
  match fuel with
  | 0 => none
  | fuel + 1 =>
    match s.skipFlow.rest with
    | ':' :: r =>
      if isSeparator true r || wasQuoted then do
        let name ← keyName? key
        let (v,s) ← flowNode? fuel {} (s.skipFlow.advance 1)
        return (.table [(name,v)],s)
      else none
    | _ => some (key,s)

/-- The entries of a table in braces up to the closing one. A key may stand alone. -/
def flowEntries? (fuel : Nat) (es : List (String × RawValue)) (s : Spot) :
    Option (List (String × RawValue) × Spot) :=
  match fuel with
  | 0 => none
  | fuel + 1 =>
    let s := s.skipFlow
    match s.rest with
    | '\x7d' :: _ => some (es,s.advance 1)
    | ',' :: _ => none
    | _ => do
      let (k,t) ← flowNode? fuel {} s
      let name ← keyName? k
      let (v,t) ← flowPair? fuel k (s.rest.head?.any fun c => c = '"' || c = '\'') t
      let v := match v with
        | .table [(_,v)] => v
        | _ => .nothing
      let t := t.skipFlow
      let es := RawValue.setEntry name v es
      match t.rest with
      | ',' :: _ => flowEntries? fuel es (t.advance 1)
      | '\x7d' :: _ => return (es,t.advance 1)
      | _ => none

end

/-- A key on one line with its colon: its name and the place behind the colon. -/
def key? (s : Spot) : Option (String × Spot) := do
  let (name,s) ←
    match quoted? s with
    | some (text,oneLine,t) => if oneLine then some (String.ofList text,t) else none
    | none =>
      if startsPlain false s.rest then do
        let line := s.rest.takeWhile (· ≠ '\n')
        let (text,t) := plain false (-1) { s with rest := line }
        let name ← (plainValue? (String.ofList text)).bind keyName?
        pure (name,s.advance (line.length - t.rest.length))
      else none
  match s.skipSpaces.rest with
  | ':' :: r => if startsBlank r then some (name,s.skipSpaces.advance 1) else none
  | _ => none

mutual

/-- A node under a parent at column `indent`. A collection of blocks may start on the same line
only if `inline`; the sequence of a table's entry may stand at the column of its key. -/
def blockNode? (fuel : Nat) (indent : Int) (inline inTable : Bool) (p : Properties) (s : Spot) :
    Option (RawValue × Spot) :=
  match fuel with
  | 0 => none
  | fuel + 1 =>
    let (broke,t) := s.skipBlock
    let fresh := inline || broke
    let flush := inTable && broke && t.isDash && (t.column : Int) = indent
    if t.isEnd || ((t.column : Int) ≤ indent && !flush) then some (emptyNode p,s.bind p.anchor .nothing)
    else
      let keep (r : RawValue × Spot) : RawValue × Spot := (r.1,r.2.bind p.anchor r.1)
      if t.isDash then
        if fresh then do
          let (vs,t) ← blockItems? fuel t.column t
          return keep (.list vs,t)
        else none
      else
        match key? t with
        | some _ =>
          if fresh then do
            let (es,t) ← blockEntries? fuel t.column [] t
            return keep (.table es,t)
          else none
        | none =>
          match property? false p t with
          | some (p,t) => blockNode? fuel indent inline inTable p t
          | none =>
            match t.rest with
            | '|' :: _ | '>' :: _ => do
              let (text,t) ← blockScalar? indent t
              return keep (.text (String.ofList text),t)
            | '[' :: _ | '\x7b' :: _ => flowNode? fuel p t
            | '*' :: _ => alias? false t
            | _ =>
              match quoted? t with
              | some (text,_,t) => some (keep (.text (String.ofList text),t))
              | none =>
                if startsPlain false t.rest then do
                  let (text,t) := plain false indent t
                  let v ← plainNode? p text
                  return keep (v,t)
                else none

def blockItems? (fuel : Nat) (column : Nat) (s : Spot) : Option (List RawValue × Spot) :=
  match fuel with
  | 0 => none
  | fuel + 1 => do
    let (v,s) ← blockNode? fuel column true false {} (s.advance 1)
    let (broke,t) := s.skipBlock
    if t.isEnd || (broke && t.column < column) then return ([v],s)
    else if !broke || column < t.column then none
    else if t.isDash then do
      let (vs,s) ← blockItems? fuel column t
      return (v :: vs,s)
    else return ([v],s)

def blockEntries? (fuel : Nat) (column : Nat) (es : List (String × RawValue)) (s : Spot) :
    Option (List (String × RawValue) × Spot) :=
  match fuel with
  | 0 => none
  | fuel + 1 => do
    let (name,s) ← key? s
    let (v,s) ← blockNode? fuel column false true {} s
    let es := RawValue.setEntry name v es
    let (broke,t) := s.skipBlock
    if t.isEnd || (broke && t.column < column) then return (es,s)
    else if !broke || column < t.column then none
    else blockEntries? fuel column es t

end

/-- Lines end with one line feed each. -/
def normalized : List Char → List Char
  | '\r' :: '\n' :: r => '\n' :: normalized r
  | '\r' :: r => '\n' :: normalized r
  | c :: r => c :: normalized r
  | [] => []

/-- Past the marks that end a document. -/
def skipEndMarks : Nat → Spot → Spot
  | 0, s => s
  | fuel + 1, s =>
    let t := s.skipBlock.2
    if t.isMarker && t.rest.head? = some '.' then skipEndMarks fuel (t.advance 3) else t

/-- Past the directives and the mark that start a document, if there are any. -/
def skipStart? : Nat → Bool → Spot → Option Spot
  | 0, _, _ => none
  | fuel + 1, directives, s =>
    let t := s.skipBlock.2
    match t.rest with
    | '%' :: r => skipStart? fuel true (t.advance ((r.takeWhile (· ≠ '\n')).length + 1))
    | '-' :: _ =>
      if t.isMarker then some { t.advance 3 with column := 3 }
      else if directives then none else some t
    | _ => if directives then none else some t

/-- The entries of the table that a text holds; an empty text holds an empty one. -/
def read? (text : String) : Option (List (String × RawValue)) := do
  let cs := normalized text.toList
  let fuel := 2 * cs.length + 2
  let start : Spot := ⟨0,cs,[]⟩
  if start.skipBlock.2.rest.isEmpty then return []
  else
    let s ← skipStart? fuel false start
    let (v,s) ← blockNode? fuel (-1) true false {} s
    let s := skipEndMarks fuel s
    match v with
    | .table es => if s.rest.isEmpty then some es else none
    | _ => none

end Yaml

end IndexTrial
