import IndexTrial.Proofs.Measure.Percentile
import Mathlib.Data.Finset.Max
import Mathlib.Data.List.Forall2

/-!
How summaries move with the samples. Samples that are no larger leave no value of the summary
larger, and the median withstands the replacement of up to half of the samples: it does not rise
above the largest of the others.
-/

namespace IndexTrial

/-- At least as many values have a property as there are positions where one is known to. -/
theorem card_le_countP {A : Type*} {P : A → Bool} {xs : List A} {positions : Finset ℕ}
    (h : ∀ i ∈ positions, ∃ x, xs[i]? = some x ∧ P x = true) : positions.card ≤ xs.countP P := by
  have hvalues : (List.range xs.length).map (xs[·]?) = xs.map some := by
    apply List.ext_getElem?
    intro i
    by_cases hi : i < xs.length <;> simp [hi]
  have hsubset : positions ⊆ ((List.range xs.length).filter fun i => xs[i]?.any P).toFinset := by
    intro i hi
    obtain ⟨x,hx,hPx⟩ := h i hi
    obtain ⟨hlt,rfl⟩ := List.getElem?_eq_some_iff.mp hx
    simp [hlt,hPx]
  calc positions.card
      ≤ ((List.range xs.length).filter fun i => xs[i]?.any P).length :=
        (Finset.card_le_card hsubset).trans (List.toFinset_card_le _)
    _ = ((List.range xs.length).map (xs[·]?)).countP (·.any P) := by
        rw [List.countP_map,List.countP_eq_length_filter]
        rfl
    _ = xs.countP P := by
        rw [hvalues,List.countP_map]
        rfl

namespace LatencySummary

variable {xs ys : List Binary64}

/-- No value of a summary is above the other's. -/
structure AtMost (s t : LatencySummary) : Prop where
  p50 : s.p50.totalLe t.p50 = true
  p95 : s.p95.totalLe t.p95 = true
  p99 : Option.Rel (fun x y => x.totalLe y = true) s.p99 t.p99
  min : s.min.totalLe t.min = true
  max : s.max.totalLe t.max = true

theorem countP_le_of_forall₂ (h : List.Forall₂ (fun x y => x.totalLe y = true) xs ys)
    (z : Binary64) : ys.countP (·.totalLe z) ≤ xs.countP (·.totalLe z) := by
  induction h with
  | nil => exact le_rfl
  | @cons x y xs ys hxy _ ih =>
    rw [List.countP_cons,List.countP_cons]
    by_cases hyz : y.totalLe z = true
    · have hxz : x.totalLe z = true := Binary64.totalLe_trans hxy hyz
      simpa [hyz,hxz] using ih
    · rw [if_neg hyz]
      omega

theorem Ranks.atMost {s t : LatencySummary} (hs : s.Ranks xs) (ht : t.Ranks ys)
    (hlength : xs.length = ys.length)
    (hcount : ∀ z, ys.countP (·.totalLe z) ≤ xs.countP (·.totalLe z)) : s.AtMost t := by
  obtain ⟨-,hs50,hs95,hs99,hsome,hsmin,hsmax⟩ := hs
  rw [hlength] at hs50 hs95 hs99 hsome hsmax
  refine ⟨hs50.mono ht.p50 (hcount _),hs95.mono ht.p95 (hcount _),?_,hsmin.mono ht.min (hcount _),
    hsmax.mono ht.max (hcount _)⟩
  have hsame : s.p99.isSome = true ↔ t.p99.isSome = true := hsome.trans ht.p99_isSome.symm
  cases hsp : s.p99 with
  | none =>
    cases htp : t.p99 with
    | none => exact .none
    | some y => simp [hsp,htp] at hsame
  | some x =>
    cases htp : t.p99 with
    | none => simp [hsp,htp] at hsame
    | some y => exact .some ((hs99 x hsp).mono (ht.p99 y htp) (hcount _))

theorem exists_atMost {zs ws : List Binary64} (hxs : xs ≠ []) (hzs : zs.Perm xs) (hws : ws.Perm ys)
    (h : List.Forall₂ (fun x y => x.totalLe y = true) zs ws) :
    ∃ s t, ofDurations xs = some s ∧ ofDurations ys = some t ∧ s.AtMost t := by
  have hlength : xs.length = ys.length := by
    rw [← hzs.length_eq,← hws.length_eq,h.length_eq]
  have hys : ys ≠ [] := by
    rw [← List.length_pos_iff] at hxs ⊢
    omega
  obtain ⟨s,hs,hsranks⟩ := exists_ranks hxs
  obtain ⟨t,ht,htranks⟩ := exists_ranks hys
  refine ⟨s,t,hs,ht,hsranks.atMost htranks hlength fun z => ?_⟩
  rw [← hzs.countP_eq,← hws.countP_eq]
  exact countP_le_of_forall₂ h z

/-- The median rank is half the count, rounded up. -/
theorem Ranks.median {s : LatencySummary} (h : s.Ranks xs) :
    AtRank xs ⌈(xs.length / 2 : ℚ)⌉₊ s.p50 := by
  have hhalf : (xs.length * 50 / 100 : ℚ) = xs.length / 2 := by ring
  rw [← hhalf]
  exact h.p50

/-- Up to half of the samples cannot lift the median above the largest of the others. -/
theorem exists_median_le {replaced : Finset ℕ} (hxs : xs ≠ []) (hlength : ys.length = xs.length)
    (hfew : replaced.card ≤ xs.length - ⌈(xs.length / 2 : ℚ)⌉₊)
    (hkept : ∀ i ∉ replaced, ys[i]? = xs[i]?) :
    ∃ s x, ofDurations ys = some s ∧ (∃ i ∉ replaced, xs[i]? = some x) ∧
      (∀ i ∉ replaced, ∀ y, xs[i]? = some y → y.totalLe x = true) ∧ s.p50.totalLe x = true := by
  have hpos : 0 < xs.length := List.length_pos_iff.mpr hxs
  have hhalf : 0 < ⌈(xs.length / 2 : ℚ)⌉₊ := Nat.ceil_pos.mpr (by positivity)
  have hhalf_le : ⌈(xs.length / 2 : ℚ)⌉₊ ≤ xs.length :=
    Nat.ceil_le.mpr (half_le_self (Nat.cast_nonneg _))
  have hys : ys ≠ [] := List.length_pos_iff.mp (by omega)
  obtain ⟨s,hs,hranks⟩ := exists_ranks hys
  let kept := Finset.range xs.length \ replaced
  have hcard : ⌈(xs.length / 2 : ℚ)⌉₊ ≤ kept.card := by
    have hsdiff := Finset.le_card_sdiff replaced (Finset.range xs.length)
    rw [Finset.card_range] at hsdiff
    exact le_trans (by omega) hsdiff
  obtain ⟨i,hi,hmax⟩ := Finset.exists_max_image kept (fun i => (xs.getD i .nan).totalKey)
    (Finset.card_pos.mp (hhalf.trans_le hcard))
  have hmem : ∀ {j}, j ∈ kept ↔ j < xs.length ∧ j ∉ replaced := by simp [kept]
  obtain ⟨hilt,hinot⟩ := hmem.mp hi
  have hlargest : ∀ j ∉ replaced, ∀ y, xs[j]? = some y → y.totalLe xs[i] = true := by
    intro j hj y hy
    obtain ⟨hjlt,rfl⟩ := List.getElem?_eq_some_iff.mp hy
    simpa [Binary64.totalLe,hjlt,hilt] using hmax j (hmem.mpr ⟨hjlt,hj⟩)
  refine ⟨s,xs[i],hs,⟨i,hinot,List.getElem?_eq_getElem hilt⟩,hlargest,?_⟩
  rw [hranks.median.totalLe_iff,hlength]
  refine hcard.trans (card_le_countP fun j hj => ?_)
  obtain ⟨hjlt,hjnot⟩ := hmem.mp hj
  have hy : ys[j]? = some xs[j] := (hkept j hjnot).trans (List.getElem?_eq_getElem hjlt)
  exact ⟨_,hy,hlargest j hjnot _ (List.getElem?_eq_getElem hjlt)⟩

/-- One sample above all others is not the median. -/
theorem median_ne_of_outlier {s : LatencySummary} {before after : List Binary64} {x : Binary64}
    (hothers : before ++ after ≠ []) (habove : ∀ y ∈ before ++ after, y.totalLt x = true)
    (hs : s.Ranks (before ++ x :: after)) : s.p50 ≠ x := by
  intro heq
  have hbefore := hs.median.before
  have hperm : (before ++ x :: after).Perm (x :: (before ++ after)) := List.perm_middle
  have hcount : (before ++ x :: after).countP (·.totalLt x) = (before ++ after).length := by
    rw [hperm.countP_eq,List.countP_cons_of_neg (by simp [Binary64.totalLt])]
    exact List.countP_eq_length.mpr habove
  have hpos := List.length_pos_iff.mpr hothers
  rw [heq,hcount,hperm.length_eq,List.length_cons] at hbefore
  refine absurd hbefore (Nat.not_lt.mpr (Nat.ceil_le.mpr ?_))
  have hone : (1 : ℚ) ≤ (before ++ after).length := by exact_mod_cast hpos
  push_cast at hone ⊢
  linarith

/-- Samples that are no larger, in whatever order, have a summary that is nowhere larger; replacing
up to half of the samples leaves the median no larger than the largest of the others; and one sample
above all others is never the median. -/
theorem ofDurations_monotone_robust :
    (∀ xs ys zs ws : List Binary64, xs ≠ [] → zs.Perm xs → ws.Perm ys →
      List.Forall₂ (fun x y => x.totalLe y = true) zs ws →
      ∃ s t, ofDurations xs = some s ∧ ofDurations ys = some t ∧ s.AtMost t) ∧
    (∀ (xs ys : List Binary64) (replaced : Finset ℕ), xs ≠ [] → ys.length = xs.length →
      replaced.card ≤ xs.length - ⌈(xs.length / 2 : ℚ)⌉₊ →
      (∀ i ∉ replaced, ys[i]? = xs[i]?) →
      ∃ s x, ofDurations ys = some s ∧ (∃ i ∉ replaced, xs[i]? = some x) ∧
        (∀ i ∉ replaced, ∀ y, xs[i]? = some y → y.totalLe x = true) ∧ s.p50.totalLe x = true) ∧
    (∀ (before after : List Binary64) (x : Binary64), before ++ after ≠ [] →
      (∀ y ∈ before ++ after, y.totalLt x = true) →
      ∃ s, ofDurations (before ++ x :: after) = some s ∧ s.p50 ≠ x) := by
  refine ⟨fun xs ys zs ws hxs hzs hws h => exists_atMost hxs hzs hws h,
    fun xs ys replaced hxs hlength hfew hkept => exists_median_le hxs hlength hfew hkept,?_⟩
  intro before after x hothers habove
  have hxs : before ++ x :: after ≠ [] := by simp
  obtain ⟨s,hs,hranks⟩ := exists_ranks hxs
  exact ⟨s,hs,median_ne_of_outlier hothers habove hranks⟩

/-- Three samples of which the second becomes infinite. -/
theorem ofDurations_monotone_robust_spike :
    (∃ s t, ofDurations [.one,.zero,.one] = some s ∧ ofDurations [.one,.infinity,.one] = some t ∧
      s.AtMost t) ∧
    (∃ s x, ofDurations [.one,.infinity,.one] = some s ∧ x ∈ [Binary64.one,.one] ∧
      s.p50.totalLe x = true) ∧
    ∃ s, ofDurations [.one,.infinity,.one] = some s ∧ s.p50 ≠ .infinity := by
  obtain ⟨hmonotone,hreplaced,houtlier⟩ := ofDurations_monotone_robust
  refine ⟨?_,?_,?_⟩
  · exact hmonotone _ _ [.zero,.one,.one] [.one,.one,.infinity] (by decide) (by decide) (by decide)
      (.cons (by decide) (.cons (by decide) (.cons (by decide) .nil)))
  · have hfew : 1 ≤ 3 - ⌈((3 : ℕ) / 2 : ℚ)⌉₊ := by
      have hhalf : ⌈((3 : ℕ) / 2 : ℚ)⌉₊ = 2 := (Nat.ceil_eq_iff (by decide)).mpr (by norm_num)
      rw [hhalf]
    have hkept : ∀ i ∉ ({1} : Finset ℕ), [Binary64.one,.infinity,.one][i]? =
        [Binary64.one,.zero,.one][i]? := by
      intro i hi
      match i with
      | 0 => rfl
      | 1 => simp at hi
      | i + 2 => rfl
    obtain ⟨s,x,hs,⟨i,hi,hx⟩,-,hle⟩ := hreplaced [.one,.zero,.one] [.one,.infinity,.one] {1}
      (by decide) rfl hfew hkept
    refine ⟨s,x,hs,?_,hle⟩
    match i with
    | 0 => simp_all
    | 1 => simp at hi
    | 2 => simp_all
    | i + 3 => simp at hx
  · exact houtlier [.one] [.one] .infinity (by decide) (by decide)

end LatencySummary

end IndexTrial
