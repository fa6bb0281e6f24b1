import IndexTrial.Benchmark
import IndexTrial.CommandLine.Help
import IndexTrial.Report.Console
import IndexTrial.Report.Files
import IndexTrial.Server.Client
import IndexTrial.Server.Connect
import IndexTrial.Settings.Load
import IndexTrial.Settings.Toml

/-!
What a command does: print the settings, accept a baseline, or measure over a link and save the
results. A command turns files and the state of a link into others and ends with an exit status.
-/

namespace IndexTrial

inductive Complaint
  | misuse (m : Misuse)
  | failure (f : Failure)
  | overflow (e : WordFault)
  deriving DecidableEq, Repr

namespace Complaint

def status : Complaint → Nat
  | misuse _ => 2
  | failure _ => 1
  | overflow _ => 101

def text : Complaint → String
  | misuse m => s!"error: {m.message}"
  | failure f =>
    let cause := match f with
      | .runAborted e => s!"\n\nCaused by:\n    {e.message}"
      | _ => ""
    s!"Error: {f.message}{cause}"
  | overflow e => e.message

end Complaint

structure Ended where
  output : String := ""
  complaint : Option Complaint := none
  deriving DecidableEq, Repr

def Ended.status (e : Ended) : Nat := e.complaint.elim 0 Complaint.status

def Ended.failedAfter (output : String) (f : Failure) : Ended := ⟨output,some (.failure f)⟩

def Ended.failed (f : Failure) : Ended := failedAfter "" f

namespace Command

variable {σ : Type}

def settings (g : Given) (vars : List (String × String)) (files : FileTree) :
    Except Failure Settings := do
  let s ← Settings.load files (g.lookup "config") vars
  (s.withOptions g).checked

def printSettings (s : Settings) : Ended :=
  match s.toml? with
  | some text => { output := text }
  | none => .failed .settingsUnprintable

def accept (s : Settings) (results : String) (now : Moment) (files : FileTree) :
    Ended × FileTree :=
  let path := s.paths.baseline
  match Baseline.accept now results path files with
  | (.ok n,files) =>
    ({ output := s!"Baseline {path} updated with {n} entries from {results}\n" },files)
  | (.error e,files) => (.failed e,files)

/-- How the results can be accepted, after a full run that did not regress. -/
def acceptanceNote (a : Artifact) (paths : List String) : String :=
  match paths with
  | json :: _ =>
    if a.mode = .full && !a.summary.hasRegressions then
      "No regressions. To accept this run as the new baseline:\n" ++
        s!"  {Help.programName} --update-baseline {json}\n"
    else ""
  | [] => ""

def publish (s : Settings) (a : Artifact) (files : FileTree) : Ended × FileTree :=
  let summary := Console.render a
  match a.save s.paths.resultsDirectory files with
  | (.error e,files) => (.failedAfter summary e,files)
  | (.ok paths,files) =>
    let saved := String.join (paths.map fun p => s!"Saved {p}\n")
    ({ output := summary ++ saved ++ acceptanceNote a paths },files)

def measure (l : Link σ) (s : Settings) (mode : SuiteMode) (id : RunId) (files : FileTree) :
    StateM σ (Ended × FileTree) := do
  match ← (l.connect s.client).run with
  | .error e => return (.failed (.unreachable e),files)
  | .ok evictsBuffers =>
    let client := l.client s.client evictsBuffers
    match ← (Benchmark.run s mode id files).on client with
    | .error e => return (.failed (.runAborted e),files)
    | .ok (.error e) => return ({ complaint := some (.overflow e) },files)
    | .ok (.ok a) => return publish s a files

def perform (l : Link σ) (g : Given) (s : Settings) (id : RunId) (files : FileTree) :
    StateM σ (Ended × FileTree) := do
  if g.has "print-config" then return (printSettings s,files)
  else
    match g.lookup "update-baseline" with
    | some results => return accept s results (.ofNanos (← l.clock)) files
    | none => measure l s (if g.has "full" then .full else .quick) id files

def run (l : Link σ) (arguments : List String) (vars : List (String × String)) (id : RunId)
    (files : FileTree) : StateM σ (Ended × FileTree) :=
  match Given.ofArguments arguments vars with
  | .error .help => pure ({ output := Help.text vars },files)
  | .error .version => pure ({ output := Help.version },files)
  | .error (.misuse m) => pure ({ complaint := some (.misuse m) },files)
  | .ok g =>
    match settings g vars files with
    | .error e => pure (.failed e,files)
    | .ok s => perform l g s id files

end Command

end IndexTrial
