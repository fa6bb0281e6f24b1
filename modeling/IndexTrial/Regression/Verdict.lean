import IndexTrial.Binary64.Rounding

/-!
Verdicts on the ratio of a measured value to its baseline. A ratio at a limit falls on the better
side; a NaN is beyond every limit. Index sizes are deterministic and have no critical tier.
-/

namespace IndexTrial

structure Thresholds where
  latencyWarning : Binary64
  latencyCritical : Binary64
  sizeWarning : Binary64
  deriving DecidableEq, Repr

def Thresholds.standard : Thresholds where
  latencyWarning := .ofDecimal false 115 (-2)
  latencyCritical := .ofDecimal false 15 (-1)
  sizeWarning := .ofDecimal false 11 (-1)

inductive Verdict
  | ok
  | warning (ratio : Binary64)
  | critical (ratio : Binary64)
  deriving DecidableEq, Repr

namespace Verdict

def severity : Verdict → Nat
  | ok => 0
  | warning _ => 1
  | critical _ => 2

@[simp] theorem severity_ok : ok.severity = 0 := rfl

def label : Verdict → String
  | ok => "ok"
  | warning _ => "warning"
  | critical _ => "critical"

/-- The more severe of two; of equals the second. -/
def worse (a b : Verdict) : Verdict := if a.severity ≤ b.severity then b else a

theorem severity_worse (a b : Verdict) : (worse a b).severity = max a.severity b.severity := by
  unfold worse
  split <;> omega

end Verdict

namespace Thresholds

def latencyVerdict (t : Thresholds) (ratio : Binary64) : Verdict :=
  if ratio.le t.latencyWarning then .ok
  else if ratio.le t.latencyCritical then .warning ratio
  else .critical ratio

def sizeVerdict (t : Thresholds) (ratio : Binary64) : Verdict :=
  if ratio.le t.sizeWarning then .ok else .warning ratio

end Thresholds

/-- A result against its baseline. A metric without a usable baseline value has no verdict. -/
structure Comparison where
  latency : Option Verdict := none
  latencyRatio : Option Binary64 := none
  size : Option Verdict := none
  sizeRatio : Option Binary64 := none
  deriving DecidableEq, Repr

def Comparison.worst (c : Comparison) : Verdict :=
  match c.latency, c.size with
  | none, none => .ok
  | some v, none => v
  | none, some v => v
  | some v, some w => v.worse w

/-- The severity of a metric's verdict; one without a verdict counts as the mildest. -/
def Verdict.severityOf (v : Option Verdict) : Nat := v.elim 0 severity

theorem Comparison.severity_worst (c : Comparison) :
    c.worst.severity = max (Verdict.severityOf c.latency) (Verdict.severityOf c.size) := by
  obtain ⟨latency,_,size,_⟩ := c
  cases latency <;> cases size <;> simp [worst,Verdict.severityOf,Verdict.severity_worse]

end IndexTrial
