import IndexTrial.Text.Blank

/-! How a program that was run came to its end. -/

namespace IndexTrial

inductive ExitStatus
  | code (value : Nat)
  | signal (number : Nat)
  deriving DecidableEq, Repr

structure ProgramEnd where
  status : ExitStatus
  complaint : String := ""
  deriving DecidableEq, Repr

namespace ExitStatus

def signalNames : List String :=
  ["HUP","INT","QUIT","ILL","TRAP","ABRT","BUS","FPE","KILL","USR1","SEGV","USR2",
    "PIPE","ALRM","TERM","STKFLT","CHLD","CONT","STOP","TSTP","TTIN","TTOU","URG",
    "XCPU","XFSZ","VTALRM","PROF","WINCH","IO","PWR","SYS"]

def isSuccess (s : ExitStatus) : Bool := s == code 0

def text : ExitStatus → String
  | code n => s!"exit status: {n}"
  | signal n =>
    match signalNames[n - 1]? with
    | some name => s!"signal: {n} (SIG{name})"
    | none => s!"signal: {n}"

end ExitStatus

def ProgramEnd.report (program : String) (e : ProgramEnd) : String :=
  s!"{program} exited with {e.status.text}: {trimmed e.complaint}"

end IndexTrial
