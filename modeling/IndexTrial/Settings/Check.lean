import IndexTrial.Settings.Basic
import IndexTrial.Text.Blank

/-!
Which settings are accepted. The rules are looked at in order, and the first that does not hold is
reported.
-/

namespace IndexTrial

inductive SettingsProblem
  | portZero
  | hostBlank
  | timeoutZero
  | engineBlank
  | sameEngines (name : String)
  | engineName (name : String)
  | latencyWarning (value : Binary64)
  | latencyCritical (value warning : Binary64)
  | sizeWarning (value : Binary64)
  | avoidBelow
  | strongSpeedup
  | compression
  | evictionCommand
  | budgetZero
  deriving DecidableEq, Repr

def SettingsProblem.message : SettingsProblem → String
  | portZero => "database.port must be > 0"
  | hostBlank => "database.host cannot be empty"
  | timeoutZero => "database.statement_timeout_ms must be > 0"
  | engineBlank => "engines.baseline and engines.candidate cannot be empty"
  | sameEngines name =>
    s!"engines.baseline and engines.candidate must differ, both are '{name}'"
  | engineName name => s!"engine name '{name}' must be a plain identifier"
  | latencyWarning x => s!"thresholds.latency_warning must be > 1.0, got {x.plain}"
  | latencyCritical x w =>
    s!"thresholds.latency_critical ({x.plain}) must exceed latency_warning ({w.plain})"
  | sizeWarning x => s!"thresholds.size_warning must be > 1.0, got {x.plain}"
  | avoidBelow => "decision.avoid_below must be in (0, decision.speedup)"
  | strongSpeedup => "decision.strong_speedup must be >= decision.speedup"
  | compression => "decision compression thresholds must be > 0"
  | evictionCommand =>
    "eviction.os_evict_command cannot be empty when eviction is enabled"
  | budgetZero => "run.budget_override_secs must be > 0"

def isIdentifierChar (c : Char) : Bool := c.isAlphanum || c == '_'

def isIdentifier (text : String) : Bool := text.toList.all isIdentifierChar

namespace Settings

def rules (s : Settings) : List (Bool × SettingsProblem) :=
  let base := trimmed s.engines.baseline
  let cand := trimmed s.engines.candidate
  let t := s.thresholds
  let d := s.decision
  [(decide (0 < s.database.port),.portZero),
    (trimmed s.database.host != "",.hostBlank),
    (decide (0 < s.database.statementTimeoutMs),.timeoutZero),
    (base != "" && cand != "",.engineBlank),
    (base != cand,.sameEngines base),
    (isIdentifier base,.engineName base),
    (isIdentifier cand,.engineName cand),
    (Binary64.one.lt t.latencyWarning,.latencyWarning t.latencyWarning),
    (t.latencyWarning.lt t.latencyCritical,.latencyCritical t.latencyCritical t.latencyWarning),
    (Binary64.one.lt t.sizeWarning,.sizeWarning t.sizeWarning),
    (Binary64.zero.lt d.avoidBelow && d.avoidBelow.lt d.speedup,.avoidBelow),
    (d.speedup.le d.strongSpeedup,.strongSpeedup),
    (Binary64.zero.lt d.strongCompression && Binary64.zero.lt d.sizeOnlyCompression,
      .compression),
    (!s.eviction.enabled || trimmed s.eviction.command != "",.evictionCommand),
    (s.run.budgetSeconds.all (0 < ·),.budgetZero)]

def problem? (s : Settings) : Option SettingsProblem := (s.rules.find? (!·.1)).map (·.2)

theorem problem?_eq_none_iff {s : Settings} : s.problem? = none ↔ ∀ r ∈ s.rules, r.1 = true := by
  simp [problem?]

end Settings

end IndexTrial
