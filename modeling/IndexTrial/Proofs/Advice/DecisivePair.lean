import IndexTrial.Advice.Recommend
import Mathlib.Data.List.Forall2

/-!
The pair of measurements that the advice on a workload rests on, read off the list of results: the
first complete candidate with a complete partner, and its first partner. Nothing but the complete
measurements of the workload, each engine's in its own order, has a say in the advice.
-/

namespace IndexTrial

section First

variable {A B : Type*} {P : A → Prop} {xs : List A} {x : A}

/-- The first element of a list that has a property. -/
def IsFirst (P : A → Prop) (xs : List A) (x : A) : Prop :=
  P x ∧ ∃ before after, xs = before ++ x :: after ∧ ∀ y ∈ before, ¬P y

namespace IsFirst

theorem mem (h : IsFirst P xs x) : x ∈ xs := by
  obtain ⟨-,before,after,rfl,-⟩ := h
  simp

theorem iff_find? [DecidablePred P] : IsFirst P xs x ↔ xs.find? (P ·) = some x := by
  simp [List.find?_eq_some_iff_append,IsFirst]

theorem exists_of_mem (hx : x ∈ xs) (hP : P x) : ∃ y, IsFirst P xs y := by
  classical
  have hsome : (xs.find? (P ·)).isSome = true := List.find?_isSome.mpr ⟨x,hx,by simpa using hP⟩
  obtain ⟨y,hy⟩ := Option.isSome_iff_exists.mp hsome
  exact ⟨y,iff_find?.mpr hy⟩

theorem iff_filter (p : A → Bool) (Q : A → Prop) :
    IsFirst (fun a => p a = true ∧ Q a) xs x ↔ IsFirst Q (xs.filter p) x := by
  classical
  rw [iff_find?,iff_find?,List.find?_filter]
  simp

theorem cons_iff {a : A} : IsFirst P (a :: xs) x ↔ P a ∧ x = a ∨ ¬P a ∧ IsFirst P xs x := by
  classical
  rw [iff_find?,iff_find?,List.find?_cons]
  by_cases ha : P a
  · simp [ha,eq_comm]
  · simp [ha]

/-- Of two lists in step, the first elements are at the same place if the properties agree there. -/
theorem of_forall₂ {R : A → B → Prop} {Q : B → Prop} {ys : List B}
    (hlists : List.Forall₂ R xs ys) (hPQ : ∀ a ∈ xs, ∀ b ∈ ys, R a b → (P a ↔ Q b))
    (h : IsFirst P xs x) : ∃ y, R x y ∧ IsFirst Q ys y := by
  induction hlists with
  | nil => exact absurd h.mem List.not_mem_nil
  | @cons a b xs ys hab _ ih =>
    have hhead := hPQ a List.mem_cons_self b List.mem_cons_self hab
    rcases cons_iff.mp h with ⟨ha,rfl⟩ | ⟨ha,h⟩
    · exact ⟨b,hab,cons_iff.mpr (.inl ⟨hhead.mp ha,rfl⟩)⟩
    · have hrest : ∀ a ∈ xs, ∀ b ∈ ys, R a b → (P a ↔ Q b) := fun a ha b hb =>
        hPQ a (List.mem_cons_of_mem _ ha) b (List.mem_cons_of_mem _ hb)
      obtain ⟨y,hxy,hy⟩ := ih hrest h
      exact ⟨y,hxy,cons_iff.mpr (.inr ⟨mt hhead.mpr ha,hy⟩)⟩

end IsFirst

end First

namespace Measurement

/-- Complete, and of a workload on an engine. -/
def CompletedOn (workload engine : String) (m : Measurement) : Prop :=
  m.workload = workload ∧ m.engine = engine ∧ m.status = .ok

instance (workload engine : String) : DecidablePred (CompletedOn workload engine) :=
  fun m => inferInstanceAs (Decidable (m.workload = workload ∧ m.engine = engine ∧ m.status = .ok))

/-- Of one query under one cache mode. -/
def Comparable (b c : Measurement) : Prop := b.query = c.query ∧ b.mode = c.mode

instance (b c : Measurement) : Decidable (b.Comparable c) :=
  inferInstanceAs (Decidable (b.query = c.query ∧ b.mode = c.mode))

end Measurement

variable {ms ms' : List Measurement} {workload engine : String} {engines : EnginePair}
  {base cand : Measurement} {t : AdviceThresholds}

theorem completeOn_eq : completeOn ms workload engine =
    ms.filter fun m => m.CompletedOn workload engine := by
  unfold completeOn
  congr 1
  funext m
  rw [Bool.eq_iff_iff,decide_eq_true_iff]
  simp [Measurement.CompletedOn,Measurement.isComplete,and_assoc]

/-- The first complete candidate that has a complete partner, and the first of its partners. -/
structure DecisivePair (ms : List Measurement) (workload : String) (engines : EnginePair)
    (base cand : Measurement) : Prop where
  candidate : IsFirst (fun c => c.CompletedOn workload engines.candidate ∧
    ∃ b ∈ ms, b.CompletedOn workload engines.baseline ∧ b.Comparable c) ms cand
  partner : IsFirst (fun b => b.CompletedOn workload engines.baseline ∧ b.Comparable cand) ms base

/-- The first partner of a candidate. -/
def partner? (ms : List Measurement) (workload baseline : String) (c : Measurement) :
    Option Measurement := (completeOn ms workload baseline).find? fun b => b.Comparable c

theorem partner?_eq_some_iff : partner? ms workload engine cand = some base ↔
    IsFirst (fun b => b.CompletedOn workload engine ∧ b.Comparable cand) ms base := by
  rw [partner?,completeOn_eq,← IsFirst.iff_find?,← IsFirst.iff_filter]
  simp

theorem partner?_isSome_iff : (partner? ms workload engine cand).isSome = true ↔
    ∃ b ∈ ms, b.CompletedOn workload engine ∧ b.Comparable cand := by
  simp [partner?,completeOn_eq]

theorem decisivePair?_eq : decisivePair? ms workload engines =
    (completeOn ms workload engines.candidate).findSome? fun c =>
      (partner? ms workload engines.baseline c).map fun b => (b,c) := by
  unfold decisivePair? partner?
  congr 1
  funext c
  congr 2
  funext b
  rw [Bool.eq_iff_iff,decide_eq_true_iff]
  simp [Measurement.Comparable]

theorem decisivePair?_eq_some_iff : decisivePair? ms workload engines = some (base,cand) ↔
    DecisivePair ms workload engines base cand := by
  have hcandidate : IsFirst (fun c => c.CompletedOn workload engines.candidate ∧
      ∃ b ∈ ms, b.CompletedOn workload engines.baseline ∧ b.Comparable c) ms cand ↔
      IsFirst (fun c => (partner? ms workload engines.baseline c).isSome = true)
        (completeOn ms workload engines.candidate) cand := by
    rw [completeOn_eq,← IsFirst.iff_filter]
    simp only [partner?_isSome_iff,decide_eq_true_eq]
  rw [decisivePair?_eq,List.findSome?_eq_some_iff]
  constructor
  · rintro ⟨before,c,after,hlist,hpair,hnone⟩
    obtain ⟨b,hb,heq⟩ := Option.map_eq_some_iff.mp hpair
    cases heq
    refine ⟨hcandidate.mpr ⟨by simp [hb],before,after,hlist,fun y hy => ?_⟩,
      partner?_eq_some_iff.mp hb⟩
    simp [Option.map_eq_none_iff.mp (hnone y hy)]
  · rintro ⟨hfirst,hpartner⟩
    obtain ⟨-,before,after,hlist,hnone⟩ := hcandidate.mp hfirst
    refine ⟨before,cand,after,hlist,?_,fun y hy => ?_⟩
    · rw [partner?_eq_some_iff.mpr hpartner,Option.map_some]
    · simpa using hnone y hy

/-- The advice says what the pair says: the ratio of the latencies, that of the sizes if both are
known and the candidate has one, and the class of both. -/
structure WorkloadAdvice.RestsOn (a : WorkloadAdvice) (t : AdviceThresholds)
    (base cand : Measurement) (x y : Binary64) : Prop where
  advice : a.advice = some (t.classify (x.div y) a.compression)
  query : a.query = some cand.query
  mode : a.mode = some cand.mode
  speedup : a.speedup = some (x.div y)
  compression : ∀ r, a.compression = some r ↔ ∃ n k, base.indexSize = some n ∧
    cand.indexSize = some k ∧ 0 < k ∧ (Binary64.ofNat n).div (.ofNat k) = r

theorem compressionOf_eq_some_iff {r : Binary64} : compressionOf base cand = some r ↔
    ∃ n k, base.indexSize = some n ∧ cand.indexSize = some k ∧ 0 < k ∧
      (Binary64.ofNat n).div (.ofNat k) = r := by
  unfold compressionOf
  cases base.indexSize <;> cases cand.indexSize <;> simp

/-- A pair of which both have a summary and the candidate took time. -/
structure DecidesBy (ms : List Measurement) (workload : String) (engines : EnginePair)
    (base cand : Measurement) (x y : Binary64) : Prop where
  pair : DecisivePair ms workload engines base cand
  base : base.p50 = some x
  candidate : cand.p50 = some y
  positive : y.le .zero = false

theorem restsOn_recommend {x y : Binary64}
    (h : DecidesBy ms workload engines base cand x y) :
    (recommend t engines ms workload).RestsOn t base cand x y := by
  have hrecommend : recommend t engines ms workload =
      { workload
        advice := some (t.classify (x.div y) (compressionOf base cand))
        query := some cand.query
        mode := some cand.mode
        speedup := some (x.div y)
        compression := compressionOf base cand
        reason := adviceReason engines.candidate (t.classify (x.div y) (compressionOf base cand))
          (x.div y) (compressionOf base cand) } := by
    simp [recommend,decisivePair?_eq_some_iff.mpr h.pair,h.base,h.candidate,h.positive]
  rw [hrecommend]
  exact ⟨rfl,rfl,rfl,rfl,fun r => compressionOf_eq_some_iff⟩

theorem exists_decidesBy (h : (recommend t engines ms workload).advice.isSome = true) :
    ∃ base cand x y, DecidesBy ms workload engines base cand x y := by
  unfold recommend at h
  split at h
  · simp at h
  · rename_i base cand hpair
    split at h
    · rename_i x y hx hy
      split at h
      · simp at h
      · exact ⟨base,cand,x,y,decisivePair?_eq_some_iff.mp hpair,hx,hy,
          Bool.eq_false_iff.mpr ‹_›⟩
    · simp at h

theorem advice_isSome_iff : (recommend t engines ms workload).advice.isSome = true ↔
    ∃ base cand x y, DecidesBy ms workload engines base cand x y := by
  refine ⟨exists_decidesBy,?_⟩
  rintro ⟨base,cand,x,y,h⟩
  rw [(restsOn_recommend h).advice]
  rfl

/-- Without advice there are no figures either. -/
theorem figures_of_advice_none (h : (recommend t engines ms workload).advice = none) :
    (recommend t engines ms workload).query = none ∧ (recommend t engines ms workload).mode = none ∧
      (recommend t engines ms workload).speedup = none ∧
      (recommend t engines ms workload).compression = none := by
  unfold recommend at h ⊢
  split
  · exact ⟨rfl,rfl,rfl,rfl⟩
  · rename_i base cand hpair
    split
    · rename_i x y hx hy
      split
      · exact ⟨rfl,rfl,rfl,rfl⟩
      · simp_all
    · exact ⟨rfl,rfl,rfl,rfl⟩

/-- The advice is one and the same wherever the complete measurements of the workload are, each
engine's by itself. -/
theorem recommend_congr
    (hbase : (ms.filter fun m => m.CompletedOn workload engines.baseline) =
      ms'.filter fun m => m.CompletedOn workload engines.baseline)
    (hcand : (ms.filter fun m => m.CompletedOn workload engines.candidate) =
      ms'.filter fun m => m.CompletedOn workload engines.candidate) :
    recommend t engines ms workload = recommend t engines ms' workload := by
  rw [← completeOn_eq,← completeOn_eq] at hbase hcand
  simp only [recommend,decisivePair?,hbase,hcand]

end IndexTrial
