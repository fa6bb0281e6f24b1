import IndexTrial.Files.Tree
import IndexTrial.Rehearsal.Program
import IndexTrial.Server.Link

/-!
A server for rehearsals. It answers a statement by the first of its rules that applies, and without
rows if there is none; a rule may also close the connection.
-/

namespace IndexTrial

structure ServerRule where
  pattern : String
  pass : Nat := 0
  times : Option Nat := none
  error : Option (String × String) := none
  rows : Option Rows := none
  closes : Bool := false

namespace ServerRule

/-- The rules after a statement, and the one that answers it. -/
def consult (sql : String) : List ServerRule → List ServerRule × Option ServerRule
  | [] => ([],none)
  | r :: rs =>
    let skip (r : ServerRule) :=
      let (rs,found) := consult sql rs
      (r :: rs,found)
    if !hasText sql r.pattern then skip r
    else if 0 < r.pass then skip { r with pass := r.pass - 1 }
    else if r.times == some 0 then skip r
    else ({ r with times := r.times.map (· - 1) } :: rs,some r)

/-- A connection that closes without an answer leaves the statement without one. -/
def answer (r : ServerRule) : Except LinkFault Rows :=
  match r.error, r.rows with
  | some (code,m), _ => .error (.reported code m)
  | none, some rows => .ok rows
  | none, none => if r.closes then .error .closed else .ok []

end ServerRule

structure Stage where
  listens : Bool := true
  /-- What it says to everyone who connects, instead of letting them in. -/
  refusal : Option String := none
  rules : List ServerRule := []
  isOpen : Bool := false
  received : Array String := #[]
  files : FileTree := {}
  clock : Nat := 0

namespace Stage

def dial (s : Stage) : Except String Unit × Stage :=
  if !s.listens then (.error "connection refused",s)
  else match s.refusal with
    | some m => (.error m,s)
    | none => (.ok (),{ s with isOpen := true })

def statementNanos : Nat := 200000

def query (sql : String) (s : Stage) : Except LinkFault Reply × Stage :=
  if !s.isOpen then (.error .closed,s)
  else
    let (rules,found) := ServerRule.consult sql s.rules
    let s := { s with
      rules, received := s.received.push sql, clock := s.clock + statementNanos }
    match found with
    | none => (.ok ⟨statementNanos,[]⟩,s)
    | some r => (r.answer.map (⟨statementNanos,·⟩),{ s with isOpen := !r.closes })

def namesIn (s : Stage) (directory : String) : Except String (List String) :=
  let p := FilePath.read directory
  if directory.isEmpty then .error "No such file or directory (os error 2)"
  else if s.files.isDirectory p then .ok (s.files.filesIn p)
  else if p.ancestry.any fun q => (s.files.contents? q).isSome then
    .error "Not a directory (os error 20)"
  else .error "No such file or directory (os error 2)"

def link : Link Stage where
  dial _ := dial
  query := query
  namesIn directory s := (s.namesIn directory,s)
  runProgram program arguments s := (runProgram program arguments,s)
  clock s := (s.clock,s)

end Stage

end IndexTrial
