import IndexTrial.Fault

/-! Why a command ended without a result, in the words for the terminal. -/

namespace IndexTrial

inductive Failure
  | unreachable (cause : Fault)
  | runAborted (cause : Fault)
  | resultsUnreadable (path : String)
  | resultsMalformed
  | nothingToAccept (path engine : String)
  | resultsDirectory (path : String)
  | resultsUnwritten (path : String)
  | tableUnwritten (path : String)
  | baselineDirectory
  | baselineCreation
  | baselineWriting
  | baselineRenaming
  | settingsUnreadable
  | settingsMalformed
  | settingsRejected (message : String)
  | settingsUnprintable
  deriving DecidableEq, Repr

namespace Failure

def message : Failure → String
  | unreachable e => e.message
  | runAborted _ => "Benchmark run aborted"
  | resultsUnreadable path => s!"Failed to read results file {path}"
  | resultsMalformed => "Failed to parse results JSON"
  | nothingToAccept path engine => s!"{path} has no complete {engine} results to take as baseline"
  | resultsDirectory path => s!"Failed to create results directory {path}"
  | resultsUnwritten path => s!"Failed to write {path}"
  | tableUnwritten path => s!"Failed to create {path}"
  | baselineDirectory => "Failed to create baseline directory"
  | baselineCreation => "Failed to create baseline temp file"
  | baselineWriting => "Failed to write baseline temp file"
  | baselineRenaming => "Failed to rename baseline file"
  | settingsUnreadable => "Failed to build config"
  | settingsMalformed => "Failed to deserialize config"
  | settingsRejected message => message
  | settingsUnprintable => "Failed to render config as TOML"

def cause : Failure → Option Fault
  | unreachable e => some e
  | runAborted e => some e
  | _ => none

end Failure

end IndexTrial
