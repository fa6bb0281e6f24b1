import IndexTrial.Proofs.Measure.Percentile
import IndexTrial.Proofs.Trial.Executions

/-!
The arithmetic of ranks. A rank is computed in 64-bit words, whose product is the only one that may
leave them; otherwise it is the exact nearest rank, lies within the samples, and goes up with the
percentage and slowly with the number of samples. A summary whose ranks are computed in this way is
the summary of the samples, as long as the highest rank has its product, and no query asks for as
many samples as that takes.
-/

namespace IndexTrial

variable {n p i : ℕ}

theorem nearestRank_eq_error_iff {fault : WordFault} : nearestRank n p = .error fault ↔
    fault = .rankUndefined ∧ (n = 0 ∨ 100 < p) ∨
      fault = .multiplicationOverflow ∧ 0 < n ∧ p ≤ 100 ∧ 2 ^ 64 ≤ n * p := by
  by_cases hdefined : n = 0 ∨ 100 < p
  · rw [nearestRank,if_pos hdefined]
    have hnot : ¬(0 < n ∧ p ≤ 100 ∧ 2 ^ 64 ≤ n * p) := by omega
    simp [hdefined,hnot,eq_comm]
  · rw [nearestRank,if_neg hdefined]
    have hnot : 0 < n ∧ p ≤ 100 := by omega
    by_cases hword : n * p < 2 ^ 64
    · simp [mulWord,hword,hdefined,Except.map]
    · simp [mulWord,hword,hdefined,hnot,Except.map,eq_comm,Nat.le_of_not_lt hword]

theorem nearestRank_fails_iff :
    (∃ fault, nearestRank n p = .error fault) ↔ n = 0 ∨ 100 < p ∨ 2 ^ 64 ≤ n * p := by
  simp only [nearestRank_eq_error_iff]
  constructor
  · rintro ⟨fault,⟨-,hundefined⟩ | ⟨-,-,-,hword⟩⟩
    · omega
    · exact .inr (.inr hword)
  · intro h
    by_cases hundefined : n = 0 ∨ 100 < p
    · exact ⟨_,.inl ⟨rfl,hundefined⟩⟩
    · exact ⟨_,.inr ⟨rfl,by omega⟩⟩

theorem nearestRank_eq_ok_iff : nearestRank n p = .ok i ↔
    (0 < n ∧ p ≤ 100 ∧ n * p < 2 ^ 64) ∧ i = rankOf n p := by
  constructor
  · intro h
    obtain ⟨hn,hp,hword⟩ : 0 < n ∧ p ≤ 100 ∧ n * p < 2 ^ 64 := by
      by_contra hout
      obtain ⟨fault,hfault⟩ := nearestRank_fails_iff.mpr (by omega : n = 0 ∨ 100 < p ∨ _)
      rw [hfault] at h
      cases h
    rw [nearestRank_eq_ok hn hp hword] at h
    exact ⟨⟨hn,hp,hword⟩,(Except.ok.inj h).symm⟩
  · rintro ⟨⟨hn,hp,hword⟩,rfl⟩
    exact nearestRank_eq_ok hn hp hword

/-- The rank, counted from zero, is the exact ceiling less one, or the first. -/
theorem rankOf_eq_ceil (hn : 0 < n) (p : ℕ) : rankOf n p = max 1 ⌈(n * p / 100 : ℚ)⌉₊ - 1 := by
  rcases Nat.eq_zero_or_pos p with rfl | hp
  · simp [rankOf]
  · have hceil := rankOf_add_one hn hp
    omega

/-- One sample more moves a rank by one at most. -/
theorem rankOf_succ_le (hp : p ≤ 100) : rankOf (n + 1) p ≤ rankOf n p + 1 := by
  unfold rankOf
  rw [Nat.add_mul]
  omega

/-! ### Summaries -/

/-- The value at a percentile's rank, which is computed in words and looked up. -/
def percentileInWords? (sorted : List Binary64) (percent : ℕ) : Option Binary64 :=
  (nearestRank sorted.length percent).toOption.bind fun i => sorted[i]?

namespace LatencySummary

variable {xs : List Binary64}

/-- The summary whose ranks are computed in words and whose values are looked up; nothing if a rank
has no word or a value is not there. -/
def inWords? (durations : List Binary64) : Option (Option LatencySummary) :=
  if durations.isEmpty then some none
  else do
    let sorted := ascending durations
    let n := sorted.length
    let p99 ← if p99Threshold ≤ n then (percentileInWords? sorted 99).map some else some none
    let p50 ← percentileInWords? sorted 50
    let p95 ← percentileInWords? sorted 95
    let min ← sorted[0]?
    let max ← sorted[n - 1]?
    return some
      { samples := n, p50, p95, p99, mean := (Binary64.sum sorted).div (.ofNat n), min, max }

theorem percentileInWords?_ascending (hxs : xs ≠ []) (hp : p ≤ 100) :
    percentileInWords? (ascending xs) p =
      if xs.length * p < 2 ^ 64 then some (percentile (ascending xs) p) else none := by
  have hpos : 0 < xs.length := List.length_pos_iff.mpr hxs
  rw [percentileInWords?,ascending_length]
  by_cases hword : xs.length * p < 2 ^ 64
  · rw [nearestRank_eq_ok hpos hp hword,if_pos hword]
    exact getElem?_ascending hxs hp
  · have hfault := nearestRank_eq_error_iff.mpr (.inr ⟨rfl,hpos,hp,Nat.le_of_not_lt hword⟩)
    rw [hfault,if_neg hword]
    rfl

theorem getElem?_eq_getD {i : ℕ} (hi : i < xs.length) :
    (ascending xs)[i]? = some ((ascending xs).getD i .nan) := by
  simp [ascending_length,hi]

/-- The samples are summarized in words just if the highest rank has its product there. -/
theorem inWords?_eq (xs : List Binary64) :
    inWords? xs = if xs.length * 99 < 2 ^ 64 then some (ofDurations xs) else none := by
  by_cases hxs : xs = []
  · subst hxs
    rfl
  have hempty : ¬xs.isEmpty = true := by simpa using hxs
  have hpos : 0 < xs.length := List.length_pos_iff.mpr hxs
  have hlength := ascending_length xs
  have h99 := percentileInWords?_ascending hxs (by decide : 99 ≤ 100)
  rw [inWords?,if_neg hempty]
  by_cases hword : xs.length * 99 < 2 ^ 64
  · have h95 := percentileInWords?_ascending hxs (by decide : 95 ≤ 100)
    have h50 := percentileInWords?_ascending hxs (by decide : 50 ≤ 100)
    rw [if_pos (by omega)] at h99 h95 h50
    have hfirst := getElem?_eq_getD hpos
    have hlast : (ascending xs)[(ascending xs).length - 1]? = _ := getElem?_eq_getD (by omega)
    rw [if_pos hword,ofDurations,if_neg hempty]
    dsimp only
    rw [h99,h95,h50,hfirst,hlast]
    by_cases hmany : p99Threshold ≤ (ascending xs).length
    · simp only [if_pos hmany]
      rfl
    · simp only [if_neg hmany]
      rfl
  · have hmany : p99Threshold ≤ (ascending xs).length := by
      unfold p99Threshold
      omega
    rw [if_neg hword] at h99
    rw [if_neg hword]
    dsimp only
    rw [if_pos hmany,h99]
    rfl

end LatencySummary

/-- A rank is refused without samples, above a hundred percent, and where its product leaves the
words, and nowhere else. Otherwise it is the exact nearest rank and lies within the samples; it never
goes down with the percentage or the number of samples, and a sample more moves it by one at most. So
no number of samples that a query asks for stops the summary of its samples. -/
theorem nearestRank_exact :
    (∀ n p, (∃ fault, nearestRank n p = .error fault) ↔ n = 0 ∨ 100 < p ∨ 2 ^ 64 ≤ n * p) ∧
    (∀ n p i, nearestRank n p = .ok i → i = max 1 ⌈(n * p / 100 : ℚ)⌉₊ - 1 ∧ i < n) ∧
    (∀ m n p q i j, nearestRank m p = .ok i → nearestRank n q = .ok j → m ≤ n → p ≤ q → i ≤ j) ∧
    (∀ n p i j, nearestRank n p = .ok i → nearestRank (n + 1) p = .ok j → j ≤ i + 1) ∧
    ∀ (q : Query) (xs : List Binary64), q.InWords → xs.length ≤ q.configuredRepeat →
      LatencySummary.inWords? xs = some (LatencySummary.ofDurations xs) := by
  refine ⟨fun n p => nearestRank_fails_iff,fun n p i h => ?_,fun m n p q i j hi hj hmn hpq => ?_,
    fun n p i j hi hj => ?_,fun q xs hq hxs => ?_⟩
  · obtain ⟨⟨hn,hp,-⟩,rfl⟩ := nearestRank_eq_ok_iff.mp h
    exact ⟨rankOf_eq_ceil hn p,rankOf_lt hn hp⟩
  · obtain ⟨-,rfl⟩ := nearestRank_eq_ok_iff.mp hi
    obtain ⟨-,rfl⟩ := nearestRank_eq_ok_iff.mp hj
    exact (rankOf_mono_count p hmn).trans (rankOf_mono_percent n hpq)
  · obtain ⟨⟨-,hp,-⟩,rfl⟩ := nearestRank_eq_ok_iff.mp hi
    obtain ⟨-,rfl⟩ := nearestRank_eq_ok_iff.mp hj
    exact rankOf_succ_le hp
  · have hlt := hq.configuredRepeat_lt
    rw [LatencySummary.inWords?_eq,if_pos (by omega)]

/-- A query with the largest word of repeats. -/
def Query.longest : Query := { Query.warmThrice with repeats := some (2 ^ 32 - 1) }

/-- The 95th of 20 samples is the last but one. The first number of samples whose 99th percentile
has no word is far beyond any number of repeats. -/
theorem nearestRank_exact_longest :
    nearestRank 20 95 = .ok 18 ∧ (18 = max 1 ⌈((20 : ℕ) * (95 : ℕ) / 100 : ℚ)⌉₊ - 1 ∧ 18 < 20) ∧
    (∃ fault, nearestRank 186330748219288401 99 = .error fault) ∧
    (¬∃ fault, nearestRank 186330748219288400 99 = .error fault) ∧
    Query.longest.InWords ∧ LatencySummary.mixedSamples.length ≤ Query.longest.configuredRepeat ∧
    LatencySummary.inWords? LatencySummary.mixedSamples =
      some (LatencySummary.ofDurations LatencySummary.mixedSamples) := by
  obtain ⟨hfails,hexact,-,-,hsummary⟩ := nearestRank_exact
  have hrank : nearestRank 20 95 = .ok 18 := rfl
  have hwords : Query.longest.InWords := ⟨by decide,by decide⟩
  have hfew : LatencySummary.mixedSamples.length ≤ Query.longest.configuredRepeat := by decide
  refine ⟨hrank,hexact 20 95 18 hrank,(hfails _ _).mpr (by omega),fun h => ?_,hwords,hfew,
    hsummary _ _ hwords hfew⟩
  have hnot := (hfails _ _).mp h
  omega

end IndexTrial
