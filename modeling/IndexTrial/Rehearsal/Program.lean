import IndexTrial.Server.Program
import IndexTrial.Text.Search

/-!
Programs that can be run in a rehearsal: `true`, `false`, and a shell that knows a few commands, so
that every way to end can be tried.
-/

namespace IndexTrial

namespace Stage

/-- How far a script has come: its last status, what it wrote to standard error, and its end, once
it has one. -/
structure Shell where
  status : Nat := 0
  complaint : String := ""
  ending : Option ExitStatus := none

def isRedirection (word : String) : Bool := word = ">&2" || word = "1>&2"

def unquoted (word : String) : String :=
  String.ofList (word.toList.filter fun c => c ≠ '"' && c ≠ '\'')

def signalNumber? (word : String) : Option Nat :=
  match word.toNat? with
  | some n => some n
  | none =>
    let name := (afterLead? "SIG" word).getD word
    (ExitStatus.signalNames.findIdx? (· = name)).map (· + 1)

def killSignal? : List String → Option Nat
  | "-s" :: name :: _ => signalNumber? name
  | option :: _ :: _ => (afterLead? "-" option).bind signalNumber?
  | [_] => some 15
  | [] => none

def Shell.command (s : Shell) (words : List String) : Shell :=
  match words.filter (!isRedirection ·) with
  | [] => s
  | "exit" :: rest =>
    let n := (rest.head?.bind String.toNat?).getD s.status
    { s with ending := some (.code (n % 256)) }
  | "echo" :: rest =>
    let line := " ".intercalate (rest.map unquoted) ++ "\n"
    { s with
      status := 0
      complaint := s.complaint ++ if words.any isRedirection then line else "" }
  | "kill" :: rest =>
    match killSignal? rest with
    | some n => { s with ending := some (.signal n) }
    | none => { s with status := 2 }
  | ["true"] => { s with status := 0 }
  | ":" :: _ => { s with status := 0 }
  | ["false"] => { s with status := 1 }
  | name :: _ => { s with status := 127, complaint := s.complaint ++ s!"sh: 1: {name}: not found\n" }

/-- The commands of a script, one after the other. -/
def runScript (script : String) : ProgramEnd :=
  let lines := (replaceText "&&" ";" (replaceText "\n" ";" script))
  let s := (splitText ';' lines).foldl
    (fun (s : Shell) line => if s.ending.isSome then s else s.command (words line)) {}
  ⟨s.ending.getD (.code s.status),s.complaint⟩

def programName (program : String) : String :=
  (["/usr/bin/","/bin/"].findSome? (afterLead? · program)).getD program

def runProgram (program : String) (arguments : List String) : Except String ProgramEnd :=
  match programName program, arguments with
  | "true", _ => .ok ⟨.code 0,""⟩
  | "false", _ => .ok ⟨.code 1,""⟩
  | "sh", "-c" :: script :: _ => .ok (runScript script)
  | _, _ => .error "No such file or directory (os error 2)"

end Stage

end IndexTrial
