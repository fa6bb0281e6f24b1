import IndexTrial.Advice.Classify
import IndexTrial.Binary64.Spelling
import IndexTrial.Run.Outcome

/-!
The advice on a workload rests on its first complete candidate measurement that has a complete
partner on the baseline engine, same query and same cache mode.
-/

namespace IndexTrial

def completeOn (ms : List Measurement) (workload engine : String) : List Measurement :=
  ms.filter fun m => m.workload == workload && m.engine == engine && m.isComplete

/-- The first complete candidate with a partner, behind its first partner. -/
def decisivePair? (ms : List Measurement) (workload : String) (engines : EnginePair) :
    Option (Measurement × Measurement) :=
  (completeOn ms workload engines.candidate).findSome? fun c =>
    ((completeOn ms workload engines.baseline).find? fun b =>
      b.query == c.query && b.mode == c.mode).map fun b => (b,c)

/-- Baseline size over candidate size, if both are known and the candidate's is not zero. -/
def compressionOf (base cand : Measurement) : Option Binary64 :=
  match base.indexSize, cand.indexSize with
  | some b, some c => if 0 < c then some ((Binary64.ofNat b).div (.ofNat c)) else none
  | _, _ => none

def adviceReason (candidate : String) (advice : Advice) (speedup : Binary64)
    (compression : Option Binary64) : String :=
  match advice, compression with
  | .avoid, _ => s!"{candidate} is {(Binary64.one.div speedup).fixedPlaces 1}x slower"
  | _, some c => s!"{speedup.fixedPlaces 2}x faster, {c.fixedPlaces 1}x smaller"
  | _, none => s!"{speedup.fixedPlaces 2}x faster, size unknown"

def recommend (t : AdviceThresholds) (engines : EnginePair) (ms : List Measurement)
    (workload : String) : WorkloadAdvice :=
  match decisivePair? ms workload engines with
  | none => { workload, reason := "no query completed on both engines" }
  | some (base,cand) =>
    match base.p50, cand.p50 with
    | some b, some c =>
      if c.le .zero then { workload, reason := "candidate latency is zero" }
      else
        let speedup := b.div c
        let compression := compressionOf base cand
        let advice := t.classify speedup compression
        { workload
          advice := some advice
          query := some cand.query
          mode := some cand.mode
          speedup := some speedup
          compression
          reason := adviceReason engines.candidate advice speedup compression }
    | _, _ => { workload, reason := "missing latency summary" }

@[simp] theorem workload_recommend (t : AdviceThresholds) (engines : EnginePair)
    (ms : List Measurement) (workload : String) :
    (recommend t engines ms workload).workload = workload := by
  unfold recommend
  split
  · rfl
  · split
    · split <;> rfl
    · rfl

end IndexTrial
