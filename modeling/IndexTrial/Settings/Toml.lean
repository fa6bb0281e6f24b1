import IndexTrial.Settings.Basic
import IndexTrial.Toml.Text

/-! The settings as a TOML text, the password masked. -/

namespace IndexTrial

namespace Settings

def presentEntry {α : Type} (key : String) (encode : α → TomlValue) (value : Option α) :
    List (String × TomlValue) :=
  value.toList.map fun a => (key,encode a)

def tomlSections (s : Settings) : List (String × List (String × TomlValue)) :=
  [("database",
      [("host",.text s.database.host),("port",.int s.database.port),
        ("user",.text s.database.user),("dbname",.text s.database.name)] ++
      presentEntry "password" .text s.database.password ++
      [("statement_timeout_ms",.int s.database.statementTimeoutMs)]),
    ("engines",[("baseline",.text s.engines.baseline),("candidate",.text s.engines.candidate)]),
    ("thresholds",
      [("latency_warning",.float s.thresholds.latencyWarning),
        ("latency_critical",.float s.thresholds.latencyCritical),
        ("size_warning",.float s.thresholds.sizeWarning)]),
    ("decision",
      [("strong_speedup",.float s.decision.strongSpeedup),
        ("strong_compression",.float s.decision.strongCompression),
        ("speedup",.float s.decision.speedup),
        ("size_only_compression",.float s.decision.sizeOnlyCompression),
        ("avoid_below",.float s.decision.avoidBelow)]),
    ("eviction",
      [("enabled",.bool s.eviction.enabled),("os_evict_command",.text s.eviction.command),
        ("os_evict_args",.texts s.eviction.arguments)]),
    ("paths",
      [("baseline",.text s.paths.baseline),("results_dir",.text s.paths.resultsDirectory)]),
    ("run",
      [("reuse_data",.bool s.run.reuseData),("seed",.int s.run.seed)] ++
      presentEntry "budget_override_secs" .int s.run.budgetSeconds),
    ("logging",
      [("level",.text s.logging.level.name),("format",.text s.logging.format.name)])]

/-- A number above the signed 64-bit range has no TOML form. -/
def toml? (s : Settings) : Option String := Toml.document? s.masked.tomlSections

end Settings

end IndexTrial
