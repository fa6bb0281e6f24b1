import IndexTrial.Measure.Measurement

/-!
Advice on a workload: whether the candidate engine is worth its place, from the speedup and the
compression of the first query that completed on both engines.
-/

namespace IndexTrial

structure AdviceThresholds where
  strongSpeedup : Binary64
  strongCompression : Binary64
  speedup : Binary64
  sizeOnlyCompression : Binary64
  avoidBelow : Binary64
  deriving DecidableEq, Repr

def AdviceThresholds.standard : AdviceThresholds where
  strongSpeedup := .ofDecimal false 13 (-1)
  strongCompression := .ofDecimal false 2 0
  speedup := .ofDecimal false 12 (-1)
  sizeOnlyCompression := .ofDecimal false 3 0
  avoidBelow := .ofDecimal false 9 (-1)

inductive Advice
  | stronglyRecommend
  | recommend
  | neutral
  | avoid
  deriving DecidableEq, Repr

namespace Advice

def phrase : Advice → String
  | stronglyRecommend => "strongly recommend"
  | recommend => "recommend"
  | neutral => "neutral"
  | avoid => "avoid"

def name : Advice → String
  | stronglyRecommend => "strongly_recommend"
  | recommend => "recommend"
  | neutral => "neutral"
  | avoid => "avoid_index_b"

def named : List (String × Advice) :=
  [stronglyRecommend,recommend,neutral,avoid].map fun a => (a.name,a)

theorem named_name (a : Advice) : named.lookup a.name = some a := by cases a <;> decide

/-- How much an advice favours the candidate. -/
def favour : Advice → Nat
  | avoid => 0
  | neutral => 1
  | recommend => 2
  | stronglyRecommend => 3

end Advice

/-- An unknown compression counts as none. -/
def AdviceThresholds.classify (t : AdviceThresholds) (speedup : Binary64)
    (compression : Option Binary64) : Advice :=
  let compression := compression.getD .zero
  if t.strongSpeedup.le speedup && t.strongCompression.le compression then .stronglyRecommend
  else if t.speedup.le speedup || t.sizeOnlyCompression.le compression then .recommend
  else if speedup.lt t.avoidBelow then .avoid
  else .neutral

structure WorkloadAdvice where
  workload : String
  advice : Option Advice := none
  query : Option String := none
  mode : Option CacheMode := none
  speedup : Option Binary64 := none
  compression : Option Binary64 := none
  reason : String
  deriving DecidableEq, Repr

end IndexTrial
