import IndexTrial.Fault
import IndexTrial.Binary64.Rounding

/-!
Latency summaries. A percentile is the value at the nearest rank `⌈n · p / 100⌉` of the ascending
samples under the total order, so every percentile is one of the samples. The mean is summed over
the ascending samples and so does not depend on their order.
-/

namespace IndexTrial

/-- Position, from zero, of the `percent`-th percentile among `n` ascending values. -/
def rankOf (n percent : Nat) : Nat := max ((n * percent + 99) / 100) 1 - 1

theorem rankOf_lt {n percent : Nat} (hn : 0 < n) (hp : percent ≤ 100) : rankOf n percent < n := by
  have : n * percent ≤ n * 100 := Nat.mul_le_mul_left n hp
  unfold rankOf
  omega

theorem rankOf_mono_percent (n : Nat) {p q : Nat} (h : p ≤ q) : rankOf n p ≤ rankOf n q := by
  have : n * p ≤ n * q := Nat.mul_le_mul_left n h
  unfold rankOf
  omega

theorem rankOf_mono_count (p : Nat) {m n : Nat} (h : m ≤ n) : rankOf m p ≤ rankOf n p := by
  have : m * p ≤ n * p := Nat.mul_le_mul_right p h
  unfold rankOf
  omega

/-- `rankOf` on 64-bit words: it is undefined without values or above 100 percent, and the product
may leave the word. -/
def nearestRank (n percent : Nat) : Except WordFault Nat :=
  if n = 0 ∨ 100 < percent then .error .rankUndefined
  else (mulWord n percent).map fun _ => rankOf n percent

theorem nearestRank_eq_ok {n percent : Nat} (hn : 0 < n) (hp : percent ≤ 100)
    (h : n * percent < 2 ^ 64) : nearestRank n percent = .ok (rankOf n percent) := by
  have h₁ : ¬(n = 0 ∨ 100 < percent) := by omega
  rw [nearestRank,if_neg h₁,mulWord,if_pos h]
  rfl

def p99Threshold : Nat := 10

structure LatencySummary where
  samples : Nat
  p50 : Binary64
  p95 : Binary64
  p99 : Option Binary64
  mean : Binary64
  min : Binary64
  max : Binary64
  deriving DecidableEq, Repr

def ascending (durations : List Binary64) : List Binary64 :=
  durations.mergeSort Binary64.totalLe

theorem ascending_perm (durations : List Binary64) : (ascending durations).Perm durations :=
  List.mergeSort_perm durations _

theorem ascending_length (durations : List Binary64) :
    (ascending durations).length = durations.length :=
  (ascending_perm durations).length_eq

theorem ascending_pairwise (durations : List Binary64) :
    (ascending durations).Pairwise fun a b => a.totalLe b :=
  @List.pairwise_mergeSort _ Binary64.totalLe
    (fun _ _ _ h k => Binary64.totalLe_trans h k) Binary64.totalLe_total durations

def percentile (sorted : List Binary64) (percent : Nat) : Binary64 :=
  sorted.getD (rankOf sorted.length percent) .nan

namespace LatencySummary

def ofDurations (durations : List Binary64) : Option LatencySummary :=
  if durations.isEmpty then none
  else
    let sorted := ascending durations
    let n := sorted.length
    some
      { samples := n
        p50 := percentile sorted 50
        p95 := percentile sorted 95
        p99 := if p99Threshold ≤ n then some (percentile sorted 99) else none
        mean := (Binary64.sum sorted).div (.ofNat n)
        min := sorted.getD 0 .nan
        max := sorted.getD (n - 1) .nan }

theorem ofDurations_eq_none_iff {durations : List Binary64} :
    ofDurations durations = none ↔ durations = [] := by
  simp [ofDurations]

end LatencySummary

end IndexTrial
