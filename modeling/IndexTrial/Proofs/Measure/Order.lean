import IndexTrial.Proofs.Measure.Percentile
import IndexTrial.Proofs.Measure.Recording

/-!
Summaries do not see the order of the samples. Samples that are equal in the total order are one bit
pattern, so that all orders of the same samples have one ascending sequence; a summary, its rounded
mean included, is computed from that sequence.
-/

namespace IndexTrial

variable {xs ys : List Binary64}

/-- The ascending sequence tells which samples there are and how often, and no more. -/
theorem ascending_eq_iff_perm : ascending xs = ascending ys ↔ xs.Perm ys := by
  constructor
  · intro h
    have hxs : xs.Perm (ascending ys) := h ▸ (ascending_perm xs).symm
    exact hxs.trans (ascending_perm ys)
  · intro h
    exact ascending_eq_of_perm (h.trans (ascending_perm ys).symm) (ascending_pairwise ys)

theorem ascending_ascending (xs : List Binary64) : ascending (ascending xs) = ascending xs :=
  ascending_eq_iff_perm.mpr (ascending_perm xs)

namespace LatencySummary

/-- A summary is one of the ascending samples. -/
theorem ofDurations_ascending (xs : List Binary64) : ofDurations (ascending xs) = ofDurations xs := by
  have hempty : (ascending xs).isEmpty = xs.isEmpty := (ascending_perm xs).isEmpty_eq
  unfold ofDurations
  rw [hempty,ascending_ascending]

theorem ofDurations_of_perm (h : xs.Perm ys) : ofDurations xs = ofDurations ys := by
  rw [← ofDurations_ascending xs,ascending_eq_iff_perm.mpr h,ofDurations_ascending]

end LatencySummary

namespace Recorder

variable {r r' : Recorder}

theorem summary_conclude_of_perm (h : r.durations.Perm r'.durations) (status : Status)
    (error error' : Option String) :
    (r.conclude status error).summary = (r'.conclude status error').summary := by
  simp only [conclude,LatencySummary.ofDurations_of_perm h]

/-- Whether a recorder is complete, and what it then says, does not depend on the order in which its
durations came. -/
theorem finish_of_perm (hexpected : r.expected = r'.expected) (h : r.durations.Perm r'.durations) :
    r.finish.status = r'.finish.status ∧ r.finish.summary = r'.finish.summary := by
  have hlength : r.samples.length = r'.samples.length := by
    rw [← length_durations,← length_durations,h.length_eq]
  unfold finish
  rw [hexpected,hlength]
  split
  · exact ⟨rfl,rfl⟩
  · exact ⟨rfl,summary_conclude_of_perm h .ok none none⟩

end Recorder

namespace LatencySummary

/-- A summary is that of the samples in any order, bit for bit: whatever is added up over the
ascending samples is, however the additions round. So two recorders that expect as much and got the
same durations are summarized alike. -/
theorem ofDurations_order_free :
    (∀ xs ys : List Binary64, xs.Perm ys → ofDurations xs = ofDurations ys ∧
      ∀ (A : Type) (add : A → Binary64 → A) (start : A),
        (ascending xs).foldl add start = (ascending ys).foldl add start) ∧
    ∀ r r' : Recorder, r.expected = r'.expected → r.durations.Perm r'.durations →
      r.finish.status = r'.finish.status ∧ r.finish.summary = r'.finish.summary := by
  refine ⟨fun xs ys hperm => ⟨ofDurations_of_perm hperm,fun A add start => ?_⟩,?_⟩
  · rw [ascending_eq_iff_perm.mpr hperm]
  · exact fun r r' hexpected hperm => Recorder.finish_of_perm hexpected hperm

/-- A recorder of ten durations. -/
def recorderOfTen (durations : List Binary64) : Recorder :=
  (Recorder.start "dimension_1k" "point" "smol" .hot 10).after (durations.map (.record · ⟨0,0⟩))

/-- Both zeros, infinities and NaNs of both signs, forwards and backwards. -/
theorem ofDurations_order_free_mixed :
    mixedSamples.reverse.Perm mixedSamples ∧ mixedSamples.reverse ≠ mixedSamples ∧
    ofDurations mixedSamples.reverse = ofDurations mixedSamples ∧
    (ofDurations mixedSamples).isSome = true ∧
    (recorderOfTen mixedSamples.reverse).durations = mixedSamples.reverse ∧
    (recorderOfTen mixedSamples.reverse).finish.status = .ok ∧
    (recorderOfTen mixedSamples.reverse).finish.summary =
      (recorderOfTen mixedSamples).finish.summary := by
  obtain ⟨hlists,hrecorders⟩ := ofDurations_order_free
  have hperm : mixedSamples.reverse.Perm mixedSamples := List.reverse_perm mixedSamples
  have hdurations : (recorderOfTen mixedSamples.reverse).durations = mixedSamples.reverse := rfl
  obtain ⟨-,hsummary⟩ := hrecorders (recorderOfTen mixedSamples.reverse)
    (recorderOfTen mixedSamples) rfl hperm
  have hsome : (ofDurations mixedSamples).isSome = true := by
    rw [Option.isSome_iff_ne_none,ne_eq,ofDurations_eq_none_iff]
    decide
  exact ⟨hperm,by decide,(hlists _ _ hperm).1,hsome,hdurations,rfl,hsummary⟩

end LatencySummary

end IndexTrial
