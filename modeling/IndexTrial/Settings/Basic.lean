import IndexTrial.Advice.Classify
import IndexTrial.Regression.Verdict
import IndexTrial.Run.Outcome
import IndexTrial.Trial.Runner

/-!
The settings of a benchmark, section by section, with their defaults, and what the parts of the
program take from them.
-/

namespace IndexTrial

structure DatabaseSettings where
  host : String := "localhost"
  port : Nat := 5432
  user : String := "postgres"
  name : String := "postgres"
  password : Option String := none
  statementTimeoutMs : Nat := 300000
  deriving DecidableEq, Repr

/-- How files leave the page cache of the operating system. -/
structure EvictionSettings where
  enabled : Bool := true
  command : String := "vmtouch"
  /-- Arguments before the names of the files. -/
  arguments : List String := ["-e"]
  deriving DecidableEq, Repr

structure PathSettings where
  baseline : String := "bench/baseline.json"
  resultsDirectory : String := "bench/results"
  deriving DecidableEq, Repr

structure RunSettings where
  /-- Keep tables between runs and use those that have rows. -/
  reuseData : Bool := true
  seed : Nat := 42
  /-- Replaces the budget of the scale. -/
  budgetSeconds : Option Nat := none
  deriving DecidableEq, Repr

inductive LogLevel
  | trace
  | debug
  | info
  | warn
  | error
  deriving DecidableEq, Repr

namespace LogLevel

def name : LogLevel → String
  | trace => "trace"
  | debug => "debug"
  | info => "info"
  | warn => "warn"
  | error => "error"

def named : List (String × LogLevel) :=
  [trace,debug,info,warn,error].map fun l => (l.name,l)

end LogLevel

inductive LogFormat
  | text
  | json
  deriving DecidableEq, Repr

namespace LogFormat

def name : LogFormat → String
  | text => "text"
  | json => "json"

def named : List (String × LogFormat) := [text,json].map fun f => (f.name,f)

end LogFormat

structure LoggingSettings where
  level : LogLevel := .info
  format : LogFormat := .text
  deriving DecidableEq, Repr

structure Settings where
  database : DatabaseSettings := {}
  engines : EnginePair := ⟨"btree","smol"⟩
  thresholds : Thresholds := .standard
  decision : AdviceThresholds := .standard
  eviction : EvictionSettings := {}
  paths : PathSettings := {}
  run : RunSettings := {}
  logging : LoggingSettings := {}
  deriving DecidableEq, Repr

structure ClientSettings where
  host : String
  port : Nat
  user : String
  database : String
  password : Option String
  statementTimeoutMs : Nat
  /-- The program that evicts files, and its first arguments. -/
  evictCommand : Option (String × List String)
  deriving DecidableEq, Repr

namespace Settings

def client (s : Settings) : ClientSettings where
  host := s.database.host
  port := s.database.port
  user := s.database.user
  database := s.database.name
  password := s.database.password
  statementTimeoutMs := s.database.statementTimeoutMs
  evictCommand :=
    if s.eviction.enabled then some (s.eviction.command,s.eviction.arguments) else none

def runner (s : Settings) (mode : SuiteMode) : Runner.Options where
  mode
  trial := ⟨s.engines,s.run.reuseData,s.eviction.enabled⟩
  budgetNanos := s.run.budgetSeconds.map (· * 10 ^ 9)
  thresholds := s.decision

def detector (s : Settings) (b : Option Baseline) : Detector :=
  ⟨b,s.thresholds,s.engines.candidate⟩

/-- What stands for a password. -/
def passwordMask : String := "********"

def masked (s : Settings) : Settings :=
  { s with database := { s.database with password := s.database.password.map fun _ => passwordMask } }

end Settings

end IndexTrial
