import IndexTrial.Client.Basic
import IndexTrial.Server.ConnectionText
import IndexTrial.Server.Program

/-!
A link to a server and to the machine that holds its files. It carries statements as they are and
knows nothing of trials.
-/

namespace IndexTrial

inductive LinkFault
  | closed
  | reported (code message : String)
  | unsendable
  deriving DecidableEq, Repr

def cancelledCode : String := "57014"

namespace LinkFault

def message : LinkFault → String
  | closed => "connection closed"
  | reported _ m => m
  | unsendable => "error encoding message to server"

def asFault (sql : String) (limitMs : Nat) : LinkFault → Fault
  | closed => .connection closed.message
  | reported code m => if code = cancelledCode then .queryTimeout sql limitMs else .queryFailed m
  | unsendable => .queryFailed unsendable.message

end LinkFault

abbrev Rows := List (List (Option String))

structure Reply where
  nanos : Nat
  rows : Rows
  deriving DecidableEq, Inhabited, Repr

/-- What a link can be asked for. Texts say why something failed. -/
structure Link (σ : Type) where
  dial : List (String × String) → StateM σ (Except String Unit)
  query : String → StateM σ (Except LinkFault Reply)
  namesIn : String → StateM σ (Except String (List String))
  runProgram : String → List String → StateM σ (Except String ProgramEnd)
  clock : StateM σ Nat

/-- A conversation over a link, which a fault ends. -/
abbrev Talk (σ : Type) := ExceptT Fault (StateM σ)

def Talk.attempt {σ α : Type} (x : Talk σ α) : Talk σ (Except Fault α) := ExceptT.lift x.run

namespace Link

variable {σ : Type}

/-- A statement that holds a zero character is never sent. -/
def send (l : Link σ) (sql : String) : StateM σ (Except LinkFault Reply) :=
  if sql.toList.contains (Char.ofNat 0) then pure (.error .unsendable) else l.query sql

def execute (l : Link σ) (limitMs : Nat) (sql : String) : Talk σ Execution := do
  match ← l.send sql with
  | .error f => throw (f.asFault sql limitMs)
  | .ok r => return ⟨(Binary64.secondsOfNanos r.nanos).mul (.ofNat 1000),r.rows⟩

end Link

end IndexTrial
