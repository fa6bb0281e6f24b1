import IndexTrial.Settings.Check

/-!
Which advice a speedup and a compression earn. For every advice the figures that earn at least this
much are closed upwards, whatever the thresholds are, so that a candidate that is faster and smaller
is never rated worse. The order of accepted thresholds keeps the outer regions apart.
-/

namespace IndexTrial

namespace Binary64

variable {x y z : Binary64}

theorem isNaN_of_le (h : x.le y = true) : x.isNaN = false ∧ y.isNaN = false := by
  simp only [le,Bool.and_eq_true,Bool.not_eq_true'] at h
  exact h.1

theorem isNaN_of_lt (h : x.lt y = true) : x.isNaN = false ∧ y.isNaN = false :=
  isNaN_of_le (le_of_lt h)

/-- Of two numbers, the one is below the other or not. -/
theorem le_eq_false_iff (hx : x.isNaN = false) (hy : y.isNaN = false) :
    x.le y = false ↔ y.lt x = true := by
  simp [le,lt,hx,hy]

/-- A number that is not below a limit stays so when it grows; a NaN is no limit at all. -/
theorem lt_eq_false_of_le (hxy : x.le y = true) (h : x.lt z = false) : y.lt z = false := by
  rw [Bool.eq_false_iff] at h ⊢
  exact fun hyz => h (lt_of_le_of_lt hxy hyz)

theorem le_eq_false_of_le (hyz : y.le z = true) (h : y.le x = false) : z.le x = false := by
  rw [Bool.eq_false_iff] at h ⊢
  exact fun hzx => h (le_trans hyz hzx)

end Binary64

namespace AdviceThresholds

variable {t : AdviceThresholds} {speedup compression speedup' compression' : Binary64}

/-- Fast and small. -/
def IsStrong (t : AdviceThresholds) (speedup compression : Binary64) : Prop :=
  t.strongSpeedup.le speedup = true ∧ t.strongCompression.le compression = true

/-- Fast or very small. -/
def IsPlain (t : AdviceThresholds) (speedup compression : Binary64) : Prop :=
  t.speedup.le speedup = true ∨ t.sizeOnlyCompression.le compression = true

/-- The figures earn this advice or a better one. -/
def Earns (t : AdviceThresholds) (speedup compression : Binary64) : Advice → Prop
  | .stronglyRecommend => t.IsStrong speedup compression
  | .recommend => t.IsStrong speedup compression ∨ t.IsPlain speedup compression
  | .neutral => t.IsStrong speedup compression ∨ t.IsPlain speedup compression ∨
    speedup.lt t.avoidBelow = false
  | .avoid => True

theorem favour_le_classify_iff (t : AdviceThresholds) (speedup : Binary64)
    (compression : Option Binary64) (a : Advice) :
    a.favour ≤ (t.classify speedup compression).favour ↔
      t.Earns speedup (compression.getD .zero) a := by
  unfold classify
  dsimp only
  split
  · cases a <;> simp_all [Earns,IsStrong,Advice.favour]
  · split
    · cases a <;> simp_all [Earns,IsStrong,IsPlain,Advice.favour]
    · split <;> cases a <;> simp_all [Earns,IsStrong,IsPlain,Advice.favour]

theorem IsStrong.mono (hspeedup : speedup.le speedup' = true)
    (hcompression : compression.le compression' = true) (h : t.IsStrong speedup compression) :
    t.IsStrong speedup' compression' :=
  ⟨Binary64.le_trans h.1 hspeedup,Binary64.le_trans h.2 hcompression⟩

theorem IsPlain.mono (hspeedup : speedup.le speedup' = true)
    (hcompression : compression.le compression' = true) (h : t.IsPlain speedup compression) :
    t.IsPlain speedup' compression' :=
  h.imp (Binary64.le_trans · hspeedup) (Binary64.le_trans · hcompression)

theorem Earns.mono (hspeedup : speedup.le speedup' = true)
    (hcompression : compression.le compression' = true) {a : Advice}
    (h : t.Earns speedup compression a) : t.Earns speedup' compression' a := by
  have hstrong := IsStrong.mono (t := t) hspeedup hcompression
  have hplain := IsPlain.mono (t := t) hspeedup hcompression
  cases a with
  | stronglyRecommend => exact hstrong h
  | recommend => exact Or.imp hstrong hplain h
  | neutral => exact Or.imp hstrong (Or.imp hplain (Binary64.lt_eq_false_of_le hspeedup)) h
  | avoid => trivial

theorem favour_classify_mono (t : AdviceThresholds) {c c' : Option Binary64}
    (hspeedup : speedup.le speedup' = true)
    (hcompression : (c.getD .zero).le (c'.getD .zero) = true) :
    (t.classify speedup c).favour ≤ (t.classify speedup' c').favour := by
  have hearned := (t.favour_le_classify_iff speedup c _).mp (Nat.le_refl _)
  exact (t.favour_le_classify_iff speedup' c' _).mpr (hearned.mono hspeedup hcompression)

def toList (t : AdviceThresholds) : List Binary64 :=
  [t.strongSpeedup,t.strongCompression,t.speedup,t.sizeOnlyCompression,t.avoidBelow]

/-- Thresholds in the order in which they are accepted. The compressions may stand in any order. -/
structure InOrder (t : AdviceThresholds) : Prop where
  avoid : t.avoidBelow.lt t.speedup = true
  strong : t.speedup.le t.strongSpeedup = true
  strongCompression : Binary64.zero.lt t.strongCompression = true
  sizeOnly : Binary64.zero.lt t.sizeOnlyCompression = true

namespace InOrder

theorem isNaN (h : t.InOrder) : ∀ x ∈ t.toList, x.isNaN = false := by
  have havoid := Binary64.isNaN_of_lt h.avoid
  have hstrong := Binary64.isNaN_of_le h.strong
  have hcompression := Binary64.isNaN_of_lt h.strongCompression
  have hsize := Binary64.isNaN_of_lt h.sizeOnly
  simp [toList,havoid,hstrong,hcompression,hsize]

theorem speedup_of_strong (h : t.InOrder) {c : Option Binary64}
    (hstrong : t.classify speedup c = .stronglyRecommend) : t.speedup.le speedup = true := by
  have hearned := (t.favour_le_classify_iff speedup c .stronglyRecommend).mp (hstrong ▸ Nat.le_refl _)
  exact Binary64.le_trans h.strong hearned.1

/-- A speedup that is worth avoiding earns no recommendation by itself. -/
theorem classify_eq_avoid_iff (h : t.InOrder) {c : Option Binary64}
    (hc : (c.getD .zero).isNaN = false) : t.classify speedup c = .avoid ↔
      speedup.lt t.avoidBelow = true ∧ (c.getD .zero).lt t.sizeOnlyCompression = true := by
  have hsize : t.sizeOnlyCompression.isNaN = false := h.isNaN _ (by simp [toList])
  have hspeedup : speedup.lt t.avoidBelow = true → t.speedup.le speedup = false := by
    intro hlow
    have hbelow := Binary64.lt_of_lt_of_le hlow (Binary64.le_of_lt h.avoid)
    have hnumbers := Binary64.isNaN_of_lt hbelow
    exact (Binary64.le_eq_false_iff hnumbers.2 hnumbers.1).mpr hbelow
  have havoid : t.classify speedup c = .avoid ↔ ¬t.Earns speedup (c.getD .zero) .neutral := by
    rw [← favour_le_classify_iff]
    cases t.classify speedup c <;> simp [Advice.favour]
  rw [havoid,← Binary64.le_eq_false_iff hsize hc]
  constructor
  · intro hnot
    simp_all [Earns,IsPlain]
  · rintro ⟨hlow,hlarge⟩
    have hslow := hspeedup hlow
    simp [Earns,IsStrong,IsPlain,hlow,hlarge,hslow,Binary64.le_eq_false_of_le h.strong hslow]

end InOrder

end AdviceThresholds

theorem Settings.inOrder_of_accepted {s : Settings} (h : s.problem? = none) :
    s.decision.InOrder := by
  have hrules := problem?_eq_none_iff.mp h
  simp only [rules,List.forall_mem_cons,Bool.and_eq_true] at hrules
  obtain ⟨-,-,-,-,-,-,-,-,-,-,⟨-,havoid⟩,hstrong,⟨hcompression,hsize⟩,-⟩ := hrules
  exact ⟨havoid,hstrong,hcompression,hsize⟩

/-- A candidate that is at least as fast and as small is never rated worse, whatever the thresholds
are. In accepted settings no threshold is a NaN, a strong recommendation takes the speedup of a plain
one, and a candidate is to be avoided exactly if it is too slow and not small enough to make up for
it. -/
theorem advice_favours_faster_and_smaller :
    (∀ (t : AdviceThresholds) (s s' : Binary64) (c c' : Option Binary64), s.le s' = true →
      (c.getD .zero).le (c'.getD .zero) = true →
      (t.classify s c).favour ≤ (t.classify s' c').favour) ∧
    ∀ settings : Settings, settings.problem? = none →
      (∀ x ∈ settings.decision.toList, x.isNaN = false) ∧
      (∀ speedup c, settings.decision.classify speedup c = .stronglyRecommend →
        settings.decision.speedup.le speedup = true) ∧
      ∀ speedup c, (c.getD Binary64.zero).isNaN = false →
        (settings.decision.classify speedup c = .avoid ↔
          speedup.lt settings.decision.avoidBelow = true ∧
            (c.getD .zero).lt settings.decision.sizeOnlyCompression = true) := by
  constructor
  · intro t s s' c c' hspeedup hcompression
    exact t.favour_classify_mono hspeedup hcompression
  · intro settings h
    have horder := settings.inOrder_of_accepted h
    exact ⟨horder.isNaN,fun _ _ => horder.speedup_of_strong,fun _ _ => horder.classify_eq_avoid_iff⟩

/-- Thresholds of which one is a NaN and the others are the wrong way round, with figures that know
no size and no bound; and the defaults, with a candidate at a tenth of the speed. -/
theorem advice_favours_faster_and_smaller_anyOrder :
    (∃ t : AdviceThresholds, t.avoidBelow.isNaN = true ∧ t.strongSpeedup.lt t.speedup = true ∧
      Binary64.one.le .infinity = true ∧
      ((none : Option Binary64).getD .zero).le ((some Binary64.infinity).getD .zero) = true ∧
      (t.classify .one none).favour ≤ (t.classify .infinity (some .infinity)).favour) ∧
    ({} : Settings).problem? = none ∧
    (∀ x ∈ AdviceThresholds.standard.toList, x.isNaN = false) ∧
    AdviceThresholds.standard.classify (.ofNat 2) (some (.ofNat 2)) = .stronglyRecommend ∧
    AdviceThresholds.standard.speedup.le (.ofNat 2) = true ∧
    AdviceThresholds.standard.classify (.ofDecimal false 1 (-1)) none = .avoid := by
  obtain ⟨hmono,haccepted⟩ := advice_favours_faster_and_smaller
  have hsettings : ({} : Settings).problem? = none := by decide
  obtain ⟨hnumbers,hstrong,havoid⟩ := haccepted {} hsettings
  have htwice : AdviceThresholds.standard.classify (.ofNat 2) (some (.ofNat 2)) =
      .stronglyRecommend := by decide +kernel
  refine ⟨⟨⟨.one,.one,.ofNat 2,.zero,.nan⟩,by decide,by decide +kernel,by decide,by decide,
    hmono _ _ _ _ _ (by decide) (by decide)⟩,hsettings,hnumbers,htwice,hstrong _ _ htwice,?_⟩
  exact (havoid _ _ (by decide)).mpr ⟨by decide +kernel,by decide +kernel⟩

end IndexTrial
