import IndexTrial.Measure.Latency
import Mathlib.Data.Rat.Floor

/-!
Percentiles by counting. In ascending order the samples up to a value come first, so that the sample
at a rank is at most a value exactly if that many samples are. What a percentile is, and how it
moves with the samples, follows from the counts alone.
-/

namespace IndexTrial

/-- If a property passes down to whatever stands before, the values that have it come first. -/
theorem getElem?_iff_lt_countP {A : Type*} {P : A → Bool} {xs : List A} {i : ℕ} {x : A}
    (hdown : xs.Pairwise fun a b => P b = true → P a = true) (hx : xs[i]? = some x) :
    P x = true ↔ i < xs.countP P := by
  induction xs generalizing i with
  | nil => simp at hx
  | cons a xs ih =>
    obtain ⟨ha,hxs⟩ := List.pairwise_cons.mp hdown
    cases hPa : P a with
    | true =>
      rw [List.countP_cons_of_pos hPa]
      cases i with
      | zero =>
        obtain rfl : a = x := by simpa using hx
        simp [hPa]
      | succ i =>
        have hx : xs[i]? = some x := by simpa using hx
        rw [ih hxs hx]
        omega
    | false =>
      have hnone : ∀ b ∈ a :: xs, ¬P b = true := by
        intro b hb hPb
        rcases List.mem_cons.mp hb with rfl | hb
        · simp [hPa] at hPb
        · simp [ha b hb hPb] at hPa
      rw [List.countP_eq_zero.mpr hnone]
      exact iff_of_false (hnone x (List.mem_of_getElem? hx)) (Nat.not_lt_zero i)

namespace Binary64

/-- Strictly before in the total order. -/
def totalLt (x y : Binary64) : Bool := decide (x.totalKey < y.totalKey)

variable {x y z : Binary64}

@[simp] theorem totalLe_refl (x : Binary64) : x.totalLe x = true := by simp [totalLe]

theorem totalLt_iff : x.totalLt y = true ↔ ¬y.totalLe x = true := by simp [totalLt,totalLe]

theorem totalLt_of_totalLe_of_totalLt (h : x.totalLe y = true) (h' : y.totalLt z = true) :
    x.totalLt z = true := by
  simp only [totalLe,totalLt,decide_eq_true_eq] at *
  omega

end Binary64

/-- A property that passes down in the total order holds at a position of the ascending samples
exactly if it holds of more samples than stand before that position. -/
theorem ascending_iff {P : Binary64 → Bool} {xs : List Binary64} {i : ℕ} {x : Binary64}
    (hdown : ∀ a b, a.totalLe b = true → P b = true → P a = true)
    (hx : (ascending xs)[i]? = some x) : P x = true ↔ i < xs.countP P := by
  rw [← (ascending_perm xs).countP_eq]
  exact getElem?_iff_lt_countP ((ascending_pairwise xs).imp fun {a b} => hdown a b) hx

/-- The total order leaves one way to sort the samples. -/
theorem ascending_eq_of_perm {xs ys : List Binary64} (hperm : xs.Perm ys)
    (hys : ys.Pairwise fun x y => x.totalLe y = true) : ascending xs = ys :=
  ((ascending_perm xs).trans hperm).eq_of_pairwise
    (fun _ _ _ _ => Binary64.totalLe_antisymm) (ascending_pairwise xs) hys

/-- The value at a rank, counted from one: fewer values than the rank are before it, and no fewer
are up to it. -/
structure AtRank (xs : List Binary64) (rank : ℕ) (x : Binary64) : Prop where
  mem : x ∈ xs
  before : xs.countP (·.totalLt x) < rank
  upTo : rank ≤ xs.countP (·.totalLe x)

namespace AtRank

variable {xs ys : List Binary64} {i j k : ℕ} {x y : Binary64}

theorem of_ascending (hx : (ascending xs)[i]? = some x) : AtRank xs (i+1) x where
  mem := (ascending_perm xs).mem_iff.mp (List.mem_of_getElem? hx)
  before := by
    have hnot : ¬x.totalLt x = true := by simp [Binary64.totalLt]
    rw [ascending_iff (P := (·.totalLt x))
      (fun _ _ => Binary64.totalLt_of_totalLe_of_totalLt) hx] at hnot
    omega
  upTo := (ascending_iff (P := (·.totalLe x)) (fun _ _ => Binary64.totalLe_trans) hx).mp
    (Binary64.totalLe_refl x)

theorem totalLe_iff (h : AtRank xs k x) (z : Binary64) :
    x.totalLe z = true ↔ k ≤ xs.countP (·.totalLe z) := by
  constructor
  · intro hxz
    have hcount : xs.countP (·.totalLe x) ≤ xs.countP (·.totalLe z) :=
      List.countP_mono_left fun _ _ hax => Binary64.totalLe_trans hax hxz
    exact h.upTo.trans hcount
  · intro hk
    by_contra hzx
    have hcount : xs.countP (·.totalLe z) ≤ xs.countP (·.totalLt x) :=
      List.countP_mono_left fun _ _ haz =>
        Binary64.totalLt_of_totalLe_of_totalLt haz (Binary64.totalLt_iff.mpr hzx)
    have hbefore := h.before
    omega

/-- A higher rank has no smaller value. -/
theorem totalLe_of_le (h : AtRank xs j x) (h' : AtRank xs k y) (hjk : j ≤ k) :
    x.totalLe y = true :=
  (h.totalLe_iff y).mpr (hjk.trans h'.upTo)

theorem least (h : AtRank xs 1 x) (hy : y ∈ xs) : x.totalLe y = true :=
  (h.totalLe_iff y).mpr (List.countP_pos_iff.mpr ⟨y,hy,Binary64.totalLe_refl y⟩)

theorem greatest (h : AtRank xs xs.length x) (hy : y ∈ xs) : y.totalLe x = true := by
  have hall : xs.countP (·.totalLe x) = xs.length := le_antisymm List.countP_le_length h.upTo
  exact List.countP_eq_length.mp hall y hy

/-- A value at a rank is no larger where no fewer values are up to any limit. -/
theorem mono (h : AtRank xs k x) (h' : AtRank ys k y)
    (hcount : ys.countP (·.totalLe y) ≤ xs.countP (·.totalLe y)) : x.totalLe y = true :=
  (h.totalLe_iff y).mpr (h'.upTo.trans hcount)

end AtRank

/-- The rank of a percentile, counted from one, is the exact ceiling. -/
theorem rankOf_add_one {n percent : ℕ} (hn : 0 < n) (hp : 0 < percent) :
    rankOf n percent + 1 = ⌈(n * percent / 100 : ℚ)⌉₊ := by
  have hpos : 0 < n * percent := Nat.mul_pos hn hp
  obtain ⟨hbelow,hupTo⟩ : rankOf n percent * 100 < n * percent ∧
      n * percent ≤ (rankOf n percent + 1) * 100 := by
    unfold rankOf
    omega
  refine ((Nat.ceil_eq_iff (Nat.succ_ne_zero _)).mpr ⟨?_,?_⟩).symm
  · rw [Nat.succ_sub_one,lt_div_iff₀ (by norm_num)]
    exact_mod_cast hbelow
  · rw [div_le_iff₀ (by norm_num)]
    exact_mod_cast hupTo

namespace LatencySummary

variable {xs : List Binary64} {percent : ℕ}

/-- The percentile is in the list, so the value that stands for none is never taken. -/
theorem getElem?_ascending (hxs : xs ≠ []) (hp : percent ≤ 100) :
    (ascending xs)[rankOf xs.length percent]? = some (percentile (ascending xs) percent) := by
  have hlt : rankOf (ascending xs).length percent < (ascending xs).length :=
    rankOf_lt (by simpa [ascending_length,List.length_pos_iff] using hxs) hp
  rw [← ascending_length xs]
  simp [percentile,hlt]

theorem atRank_percentile (hxs : xs ≠ []) (hpos : 0 < percent) (hp : percent ≤ 100) :
    AtRank xs ⌈(xs.length * percent / 100 : ℚ)⌉₊ (percentile (ascending xs) percent) := by
  rw [← rankOf_add_one (List.length_pos_iff.mpr hxs) hpos]
  exact .of_ascending (getElem?_ascending hxs hp)

/-- Every value of a summary stands at the rank that it is named for. -/
structure Ranks (s : LatencySummary) (xs : List Binary64) : Prop where
  samples : s.samples = xs.length
  p50 : AtRank xs ⌈(xs.length * 50 / 100 : ℚ)⌉₊ s.p50
  p95 : AtRank xs ⌈(xs.length * 95 / 100 : ℚ)⌉₊ s.p95
  p99 : ∀ x, s.p99 = some x → AtRank xs ⌈(xs.length * 99 / 100 : ℚ)⌉₊ x
  p99_isSome : s.p99.isSome = true ↔ 10 ≤ xs.length
  min : AtRank xs 1 s.min
  max : AtRank xs xs.length s.max

theorem exists_ranks (hxs : xs ≠ []) : ∃ s, ofDurations xs = some s ∧ s.Ranks xs := by
  have hlength := ascending_length xs
  have hpos : 0 < xs.length := List.length_pos_iff.mpr hxs
  have hends : ∀ i, i < xs.length → AtRank xs (i+1) ((ascending xs).getD i .nan) := by
    intro i hi
    refine .of_ascending ?_
    simp [hlength,hi]
  refine ⟨_,if_neg (by simpa using hxs),?_⟩
  constructor
  · exact hlength
  · exact atRank_percentile hxs (by decide) (by decide)
  · exact atRank_percentile hxs (by decide) (by decide)
  · intro x hx
    dsimp only at hx
    split at hx
    · obtain rfl := Option.some.inj hx
      exact atRank_percentile hxs (by decide) (by decide)
    · cases hx
  · dsimp only
    split <;> simp_all [p99Threshold]
  · exact hends 0 hpos
  · have hlast := hends (xs.length - 1) (by omega)
    rw [Nat.sub_add_cancel hpos] at hlast
    rwa [← hlength] at hlast ⊢

/-- The values of a summary from the least to the greatest. -/
structure Ordered (s : LatencySummary) : Prop where
  min_p50 : s.min.totalLe s.p50 = true
  p50_p95 : s.p50.totalLe s.p95 = true
  p95_max : s.p95.totalLe s.max = true
  p99 : ∀ x, s.p99 = some x → s.p95.totalLe x = true ∧ x.totalLe s.max = true

theorem Ranks.ordered {s : LatencySummary} (h : s.Ranks xs) : s.Ordered := by
  have hrank : ∀ p q : ℚ, p ≤ q → ⌈(xs.length * p / 100 : ℚ)⌉₊ ≤ ⌈(xs.length * q / 100 : ℚ)⌉₊ := by
    intro p q hpq
    gcongr
  constructor
  · exact h.min.least h.p50.mem
  · exact h.p50.totalLe_of_le h.p95 (hrank 50 95 (by norm_num))
  · exact h.max.greatest h.p95.mem
  · exact fun x hx =>
      ⟨h.p95.totalLe_of_le (h.p99 x hx) (hrank 95 99 (by norm_num)),h.max.greatest (h.p99 x hx).mem⟩

/-- There is a summary of all samples but none at all. Its percentiles are samples at the exact
nearest ranks in the total order, its ends are the least and the greatest sample, and it is ordered;
as long as the ranks fit into a word, they are computed there and lie within the samples. -/
theorem ofDurations_nearest_ranks (xs : List Binary64) :
    (ofDurations xs = none ↔ xs = []) ∧
    (xs ≠ [] → ∃ s, ofDurations xs = some s ∧ s.Ranks xs ∧ s.Ordered ∧
      (s.min ∈ xs ∧ ∀ y ∈ xs, s.min.totalLe y = true) ∧
      (s.max ∈ xs ∧ ∀ y ∈ xs, y.totalLe s.max = true) ∧
      (xs.length * 99 < 2 ^ 64 → ∀ percent ∈ [50,95,99], ∃ i,
        nearestRank xs.length percent = .ok i ∧
          (ascending xs)[i]? = some (percentile (ascending xs) percent))) := by
  refine ⟨ofDurations_eq_none_iff,fun hxs => ?_⟩
  obtain ⟨s,hs,hranks⟩ := exists_ranks hxs
  refine ⟨s,hs,hranks,hranks.ordered,⟨hranks.min.mem,fun _ => hranks.min.least⟩,
    ⟨hranks.max.mem,fun _ => hranks.max.greatest⟩,fun hword percent hpercent => ?_⟩
  have hle : percent ≤ 99 := by
    simp only [List.mem_cons,List.not_mem_nil,or_false] at hpercent
    omega
  have hfits : xs.length * percent < 2 ^ 64 := (Nat.mul_le_mul_left _ hle).trans_lt hword
  exact ⟨_,nearestRank_eq_ok (List.length_pos_iff.mpr hxs) (by omega) hfits,
    getElem?_ascending hxs (by omega)⟩

/-- Ten samples, with both zeros and NaNs of both signs among them. -/
def mixedSamples : List Binary64 :=
  [.one,.nan,.zero,⟨0xfff8000000000000⟩,.negativeZero,.infinity,.one,.zero,.negativeInfinity,.one]

theorem ascending_mixedSamples : ascending mixedSamples =
    [⟨0xfff8000000000000⟩,.negativeInfinity,.negativeZero,.zero,.zero,.one,.one,.one,.infinity,
      .nan] := by
  apply ascending_eq_of_perm <;> decide +kernel

/-- The 50th percentile is the fifth sample, the 95th and the 99th are the tenth. -/
theorem ofDurations_nearest_ranks_mixed :
    mixedSamples ≠ [] ∧ mixedSamples.length * 99 < 2 ^ 64 ∧ ∃ s, ofDurations mixedSamples = some s ∧
      s.p50 = .zero ∧ s.p95 = .nan ∧ s.p99 = some .nan ∧ s.min = ⟨0xfff8000000000000⟩ ∧
      s.Ranks mixedSamples ∧ s.Ordered ∧
      ∃ i, nearestRank mixedSamples.length 50 = .ok i ∧ (ascending mixedSamples)[i]? = some .zero := by
  have hne : mixedSamples ≠ [] := by decide
  have hword : mixedSamples.length * 99 < 2 ^ 64 := by decide
  obtain ⟨s,hs,hranks,hordered,-,-,hposition⟩ := (ofDurations_nearest_ranks mixedSamples).2 hne
  have hvalues : (s.p50,s.p95,s.p99,s.min) = (.zero,.nan,some .nan,⟨0xfff8000000000000⟩) := by
    have hsummary := hs
    rw [ofDurations,ascending_mixedSamples] at hsummary
    obtain rfl := Option.some.inj hsummary
    rfl
  simp only [Prod.mk.injEq] at hvalues
  obtain ⟨hp50,hp95,hp99,hmin⟩ := hvalues
  have hmedian : percentile (ascending mixedSamples) 50 = .zero := by
    rw [ascending_mixedSamples]
    rfl
  obtain ⟨i,hi,hat⟩ := hposition hword 50 (by decide)
  exact ⟨hne,hword,s,hs,hp50,hp95,hp99,hmin,hranks,hordered,i,hi,hat.trans (by rw [hmedian])⟩

end LatencySummary

end IndexTrial
