import IndexTrial.Binary64.Rounding
import Mathlib.Algebra.Order.Field.Power
import Mathlib.Tactic.FieldSimp
import Mathlib.Tactic.Linarith
import Mathlib.Tactic.NormNum
import Mathlib.Tactic.Positivity
import Mathlib.Tactic.Ring

/-!
Rounding to the nearest double, in exact rationals. `x.Covers v` says that `v` lies between the
midpoints around the magnitude of `x`, an end counting only for an even significand. Whatever ratio
or decimal has such a value is rounded to `x`.
-/

namespace IndexTrial

/-- A quotient is rounded down or up, to the number that twice the remainder lets through. -/
theorem roundedQuotient_eq_of_mul {num den k : Nat} (hden : 0 < den)
    (hlow : 2 * (k * den) ≤ 2 * num + den) (hhigh : 2 * num ≤ 2 * (k * den) + den)
    (heven : k % 2 = 0 ∨ 2 * (k * den) < 2 * num + den ∧ 2 * num < 2 * (k * den) + den) :
    roundedQuotient num den = k := by
  have hnum : num / den * den + num % den = num := Nat.div_add_mod' num den
  have hrest : num % den < den := Nat.mod_lt num hden
  have hle : num / den ≤ k := by
    by_contra h
    have hmul : (k + 1) * den ≤ num / den * den := Nat.mul_le_mul_right den (by omega)
    rw [Nat.add_mul,Nat.one_mul] at hmul
    omega
  have hge : k ≤ num / den + 1 := by
    by_contra h
    have hmul : (num / den + 2) * den ≤ k * den := Nat.mul_le_mul_right den (by omega)
    rw [Nat.add_mul] at hmul
    omega
  have hk : k = num / den ∨ k = num / den + 1 := by omega
  unfold roundedQuotient
  generalize num / den = q at *
  generalize num % den = r at *
  subst hnum
  dsimp only
  rcases hk with rfl | rfl
  · split
    · rfl
    · split <;> omega
  · rw [Nat.add_mul,Nat.one_mul] at hlow hhigh heven
    split
    · omega
    · split <;> omega

/-- An integer within half a unit, evenly if it is half a unit away, is the rounded quotient. -/
theorem roundedQuotient_eq {num den k : Nat} (hden : 0 < den) (hlow : (k : ℚ) - 1 / 2 ≤ num / den)
    (hhigh : (num : ℚ) / den ≤ k + 1 / 2)
    (heven : k % 2 = 0 ∨ (k : ℚ) - 1 / 2 < num / den ∧ (num : ℚ) / den < k + 1 / 2) :
    roundedQuotient num den = k := by
  have hpos : (0 : ℚ) < den := by exact_mod_cast hden
  apply roundedQuotient_eq_of_mul hden
  · rw [le_div_iff₀ hpos] at hlow
    have : (2 * (k * den) : ℚ) ≤ 2 * num + den := by linarith
    exact_mod_cast this
  · rw [div_le_iff₀ hpos] at hhigh
    have : (2 * num : ℚ) ≤ 2 * (k * den) + den := by linarith
    exact_mod_cast this
  · refine heven.imp_right fun ⟨hl,hh⟩ => ?_
    rw [lt_div_iff₀ hpos] at hl
    rw [div_lt_iff₀ hpos] at hh
    have hl' : (2 * (k * den) : ℚ) < 2 * num + den := by linarith
    have hh' : (2 * num : ℚ) < 2 * (k * den) + den := by linarith
    exact ⟨by exact_mod_cast hl',by exact_mod_cast hh'⟩

theorem scaledRatio_eq (num : Nat) {den : Nat} (hden : 0 < den) (q : Int) :
    0 < (scaledRatio num den q).2 ∧
      ((scaledRatio num den q).1 : ℚ) / (scaledRatio num den q).2 = num / den / 2 ^ q := by
  have hpos : (den : ℚ) ≠ 0 := by exact_mod_cast hden.ne'
  cases q with
  | ofNat k =>
    refine ⟨by simp only [scaledRatio]; positivity,?_⟩
    simp only [scaledRatio,Int.ofNat_eq_natCast,zpow_natCast,Nat.cast_mul,Nat.cast_pow,
      Nat.cast_ofNat]
    field_simp
  | negSucc k =>
    refine ⟨hden,?_⟩
    simp only [scaledRatio,zpow_negSucc,Nat.cast_mul,Nat.cast_pow,Nat.cast_ofNat]
    field_simp

namespace Binary64

/-! ### Significands and exponents -/

/-- Magnitudes count the doubles from zero on, `2 ^ 52` for each exponent. -/
theorem magnitude_eq (x : Binary64) :
    (x.magnitude : Int) = (x.exponent - leastExponent) * 2 ^ 52 + x.significand := by
  unfold exponent significand leastExponent
  split <;> omega

theorem significand_lt (x : Binary64) : x.significand < 2 ^ 53 := by
  unfold significand
  split <;> omega

theorem leastExponent_le (x : Binary64) : leastExponent ≤ x.exponent := by
  unfold exponent leastExponent
  omega

theorem le_significand {x : Binary64} (h : leastExponent < x.exponent) : 2 ^ 52 ≤ x.significand := by
  unfold exponent leastExponent at h
  unfold significand
  split <;> omega

theorem exponent_le {x : Binary64} (hx : x.isFinite = true) : x.exponent ≤ 971 := by
  have hlt : x.magnitude < 0x7ff * 2 ^ 52 := of_decide_eq_true hx
  unfold exponent
  omega

theorem ofMagnitude_magnitude (x : Binary64) : ofMagnitude x.isNegative x.magnitude = x := by
  have hx := x.bits.toNat_lt
  apply ext_bits
  apply UInt64.toNat_inj.mp
  simp only [ofMagnitude,magnitude,isNegative,decide_eq_true_eq,UInt64.toNat_ofNat']
  split <;> omega

/-! ### The exponent of a ratio -/

/-- Under the exponent `q` the value `v` has a significand of 53 bits, if that is not too small. -/
structure Normalizes (q : Int) (v : ℚ) : Prop where
  least : leastExponent ≤ q
  lt : v < 2 ^ (q + 53)
  le : leastExponent < q → 2 ^ (q + 52) ≤ v

theorem Normalizes.of_bounds {q : Int} {v : ℚ} (hlow : 2 ^ (q + 52) ≤ v) (hhigh : v < 2 ^ (q + 53)) :
    Normalizes (max q leastExponent) v := by
  rcases le_total leastExponent q with h | h
  · rw [max_eq_left h]
    exact ⟨h,hhigh,fun _ => hlow⟩
  · rw [max_eq_right h]
    have hpow : (2 : ℚ) ^ (q + 53) ≤ 2 ^ (leastExponent + 53) :=
      zpow_le_zpow_right₀ (by norm_num) (by omega)
    exact ⟨le_rfl,hhigh.trans_le hpow,fun h => absurd h (lt_irrefl _)⟩

/-- The binary logarithms of both parts give the exponent but for one. -/
theorem log2_bounds {num den : Nat} (hnum : 0 < num) (hden : 0 < den) :
    (2 : ℚ) ^ ((num.log2 : Int) - den.log2 - 1) ≤ num / den ∧
      (num : ℚ) / den < 2 ^ ((num.log2 : Int) - den.log2 + 1) := by
  have hd : (0 : ℚ) < den := by exact_mod_cast hden
  have hnlow : (2 : ℚ) ^ (num.log2 : Int) ≤ num := by
    exact_mod_cast Nat.log2_self_le hnum.ne'
  have hnhigh : (num : ℚ) < 2 ^ ((num.log2 : Int) + 1) := by
    exact_mod_cast Nat.lt_log2_self (n := num)
  have hdlow : (2 : ℚ) ^ (den.log2 : Int) ≤ den := by
    exact_mod_cast Nat.log2_self_le hden.ne'
  have hdhigh : (den : ℚ) < 2 ^ ((den.log2 : Int) + 1) := by
    exact_mod_cast Nat.lt_log2_self (n := den)
  constructor
  · rw [le_div_iff₀ hd]
    calc (2 : ℚ) ^ ((num.log2 : Int) - den.log2 - 1) * den
        ≤ 2 ^ ((num.log2 : Int) - den.log2 - 1) * 2 ^ ((den.log2 : Int) + 1) := by gcongr
      _ = 2 ^ (num.log2 : Int) := by rw [← zpow_add₀ (by norm_num)]; congr 1; omega
      _ ≤ num := hnlow
  · rw [div_lt_iff₀ hd]
    calc (num : ℚ) < 2 ^ ((num.log2 : Int) + 1) := hnhigh
      _ = 2 ^ ((num.log2 : Int) - den.log2 + 1) * 2 ^ (den.log2 : Int) := by
        rw [← zpow_add₀ (by norm_num)]; congr 1; omega
      _ ≤ 2 ^ ((num.log2 : Int) - den.log2 + 1) * den := by gcongr

theorem normalizes_ratioExponent {num den : Nat} (hnum : 0 < num) (hden : 0 < den) :
    Normalizes (ratioExponent num den) (num / den) := by
  obtain ⟨hlow,hhigh⟩ := log2_bounds hnum hden
  unfold ratioExponent
  generalize hq : (num.log2 : Int) - den.log2 - 53 = q
  have hlow' : (num.log2 : Int) - den.log2 - 1 = q + 52 := by omega
  have hhigh' : (num.log2 : Int) - den.log2 + 1 = q + 1 + 53 := by omega
  rw [hlow'] at hlow
  rw [hhigh'] at hhigh
  obtain ⟨hs,hscaled⟩ := scaledRatio_eq num hden q
  have hscaledPos : (0 : ℚ) < (scaledRatio num den q).2 := by exact_mod_cast hs
  have htest : (scaledRatio num den q).1 / (scaledRatio num den q).2 < 2 ^ 53 ↔
      (num : ℚ) / den < 2 ^ (q + 53) := by
    rw [Nat.div_lt_iff_lt_mul hs,add_comm,zpow_add₀ (by norm_num),← div_lt_iff₀ (by positivity),
      ← hscaled,div_lt_iff₀ hscaledPos]
    exact_mod_cast Iff.rfl
  dsimp only
  split
  · rename_i hsmall
    exact .of_bounds hlow (htest.mp hsmall)
  · rename_i hlarge
    have hge := not_lt.mp (mt htest.mpr hlarge)
    have hnext : q + 53 = q + 1 + 52 := by omega
    exact .of_bounds (hnext ▸ hge) hhigh

/-! ### The reals that round to a double -/

/-- Half a unit lies below a double, but a quarter below a power of two, where the units get
smaller. -/
def lowerGap (x : Binary64) : ℚ :=
  if x.significand = 2 ^ 52 ∧ leastExponent < x.exponent then 1 / 4 else 1 / 2

theorem lowerGap_pos (x : Binary64) : 0 < x.lowerGap := by
  unfold lowerGap
  split <;> norm_num

theorem lowerGap_le (x : Binary64) : x.lowerGap ≤ 1 / 2 := by
  unfold lowerGap
  split <;> norm_num

/-- The value lies between the midpoints around the magnitude of `x`, counted in units of `x`. -/
structure Covers (x : Binary64) (v : ℚ) : Prop where
  low : x.significand - x.lowerGap ≤ v / 2 ^ x.exponent
  high : v / 2 ^ x.exponent ≤ x.significand + 1 / 2
  even : x.significand % 2 = 0 ∨ x.significand - x.lowerGap < v / 2 ^ x.exponent ∧
    v / 2 ^ x.exponent < x.significand + 1 / 2

variable {x : Binary64} {v : ℚ} {q : Int}

theorem Covers.lt (h : x.Covers v) : v < 2 ^ (x.exponent + 53) := by
  have hm : (x.significand : ℚ) + 1 ≤ 2 ^ 53 := by exact_mod_cast x.significand_lt
  have hhigh := h.high
  have hlt : v / 2 ^ x.exponent < 2 ^ 53 := by linarith
  rw [div_lt_iff₀ (by positivity)] at hlt
  rw [add_comm,zpow_add₀ (by norm_num)]
  exact_mod_cast hlt

/-- Below a power of two only its own midpoint is near enough. -/
theorem Covers.below (h : x.Covers v) (hnormal : leastExponent < x.exponent)
    (hv : v < 2 ^ (x.exponent + 52)) :
    x.significand = 2 ^ 52 ∧ 2 ^ 52 - 1 / 4 ≤ v / 2 ^ x.exponent := by
  rw [add_comm,zpow_add₀ (by norm_num),← div_lt_iff₀ (by positivity)] at hv
  have hv' : v / 2 ^ x.exponent < 2 ^ 52 := by exact_mod_cast hv
  have hlow := h.low
  have hgap := x.lowerGap_le
  have hm : x.significand = 2 ^ 52 := by
    have hlt : (x.significand : ℚ) < 2 ^ 52 + 1 := by linarith
    have hlt' : x.significand < 2 ^ 52 + 1 := by exact_mod_cast hlt
    have hge := le_significand hnormal
    omega
  have hquarter : x.lowerGap = 1 / 4 := by simp [lowerGap,hm,hnormal]
  rw [hm,hquarter] at hlow
  exact ⟨hm,by exact_mod_cast hlow⟩

/-- A value has its exponent from the double that it rounds to, or the one below if it falls short
of a power of two by at most half of the smaller unit. -/
theorem Covers.exponent_eq (h : x.Covers v) (hq : Normalizes q v) :
    q = x.exponent ∨ q = x.exponent - 1 ∧ x.significand = 2 ^ 52 ∧
      2 ^ 53 - 1 / 2 ≤ v / 2 ^ q := by
  have hle : q ≤ x.exponent := by
    by_contra hgt
    have hge := hq.le (by have := x.leastExponent_le; omega)
    have hpow : (2 : ℚ) ^ (x.exponent + 53) ≤ 2 ^ (q + 52) :=
      zpow_le_zpow_right₀ (by norm_num) (by omega)
    exact absurd h.lt (not_lt.mpr (hpow.trans hge))
  rcases hle.eq_or_lt with heq | hlt
  · exact .inl heq
  · right
    obtain ⟨hm,hlow⟩ := h.below (hq.least.trans_lt hlt)
      (hq.lt.trans_le (zpow_le_zpow_right₀ (by norm_num) (by omega)))
    have hqeq : q = x.exponent - 1 := by
      by_contra hne
      have hhigh : v < 2 ^ (x.exponent + 51) :=
        hq.lt.trans_le (zpow_le_zpow_right₀ (by norm_num) (by omega))
      rw [add_comm,zpow_add₀ (by norm_num),← div_lt_iff₀ (by positivity)] at hhigh
      norm_num at hlow hhigh
      linarith
    have hhalf : v / 2 ^ q = 2 * (v / 2 ^ x.exponent) := by
      rw [hqeq,zpow_sub₀ (by norm_num)]
      field_simp
    refine ⟨hqeq,hm,?_⟩
    rw [hhalf]
    linarith

/-- The pattern that an exponent and a significand make. -/
theorem ofMagnitude_eq (hx : x.isFinite = true) {m : Nat} (hq : leastExponent ≤ q)
    (hm : (q - leastExponent) * 2 ^ 52 + m = x.magnitude) (hsmall : m < 2 ^ 52 → q = leastExponent) :
    ofMagnitude x.isNegative (min (if m < 2 ^ 52 then m else (q - leastExponent).toNat * 2 ^ 52 + m)
      infinityMagnitude) = x := by
  have hlt : x.magnitude < infinityMagnitude := of_decide_eq_true hx
  have hmagnitude :
      (if m < 2 ^ 52 then m else (q - leastExponent).toNat * 2 ^ 52 + m) = x.magnitude := by
    split
    · rename_i hlt
      have hleast := hsmall hlt
      omega
    · omega
  rw [hmagnitude,Nat.min_eq_left hlt.le,ofMagnitude_magnitude]

/-- A ratio is rounded to the double that covers it. -/
theorem ofRatio_eq (hx : x.isFinite = true) {num den : Nat} (hnum : 0 < num) (hden : 0 < den)
    (h : x.Covers (num / den)) : ofRatio x.isNegative num den = x := by
  have hq := normalizes_ratioExponent hnum hden
  obtain ⟨hs,hscaled⟩ := scaledRatio_eq num hden (ratioExponent num den)
  have hmagnitude := x.magnitude_eq
  unfold ofRatio
  rw [if_neg hnum.ne']
  dsimp only
  generalize ratioExponent num den = q at *
  rcases h.exponent_eq hq with rfl | ⟨rfl,hm,hnear⟩
  · have hgap := x.lowerGap_le
    have hround : roundedQuotient (scaledRatio num den x.exponent).1
        (scaledRatio num den x.exponent).2 = x.significand := by
      apply roundedQuotient_eq hs
      · rw [hscaled]
        linarith [h.low]
      · rw [hscaled]
        exact h.high
      · rw [hscaled]
        exact h.even.imp_right fun ⟨hlow,hhigh⟩ => ⟨by linarith,hhigh⟩
    rw [hround]
    refine ofMagnitude_eq hx hq.least hmagnitude.symm fun hsmall => ?_
    by_contra hne
    have hnormal := le_significand (lt_of_le_of_ne hq.least (Ne.symm hne))
    omega
  · -- the significand rounds up to the power of two and carries into the exponent
    have hround : roundedQuotient (scaledRatio num den (x.exponent - 1)).1
        (scaledRatio num den (x.exponent - 1)).2 = 2 ^ 53 := by
      have hlt := hq.lt
      rw [add_comm,zpow_add₀ (by norm_num),← div_lt_iff₀ (by positivity)] at hlt
      apply roundedQuotient_eq hs
      · rw [hscaled]
        exact_mod_cast hnear
      · rw [hscaled]
        norm_num at hlt ⊢
        linarith
      · exact .inl (by decide)
    rw [hround]
    exact ofMagnitude_eq hx hq.least (by omega) (by omega)

/-! ### Decimals -/

theorem two_pow_le_ten_pow (n : Nat) : 2 ^ (3 * n) ≤ 10 ^ n := by
  rw [Nat.pow_mul]
  exact Nat.pow_le_pow_left (by decide) n

theorem two_pow_lt_ten_pow {m n : Nat} (h : m < 3 * n) : (2 : ℚ) ^ (m : Int) < 10 ^ (n : Int) := by
  have hnat : 2 ^ m < 10 ^ n :=
    (Nat.pow_lt_pow_right (by decide) h).trans_le (two_pow_le_ten_pow n)
  rw [zpow_natCast,zpow_natCast]
  exact_mod_cast hnat

/-- The binary logarithm of a number bounds its decimal digits. -/
theorem lt_pow_log2 (n : Nat) : (n : ℚ) < 10 ^ ((n.log2 / 3 + 1 : Nat) : Int) := by
  have hnat : n < 10 ^ (n.log2 / 3 + 1) := by
    calc n < 2 ^ (n.log2 + 1) := Nat.lt_log2_self
      _ ≤ 2 ^ (3 * (n.log2 / 3 + 1)) := Nat.pow_le_pow_right (by decide) (by omega)
      _ ≤ 10 ^ (n.log2 / 3 + 1) := two_pow_le_ten_pow _
  rw [zpow_natCast]
  exact_mod_cast hnat

theorem Covers.pos (h : x.Covers v) (hm : 0 < x.significand) : 2 ^ (-1075 : Int) ≤ v := by
  have hm' : (1 : ℚ) ≤ x.significand := by exact_mod_cast hm
  have hgap := x.lowerGap_le
  have hlow : 1 / 2 ≤ v / 2 ^ x.exponent := by linarith [h.low]
  rw [le_div_iff₀ (by positivity)] at hlow
  have hleast := x.leastExponent_le
  calc (2 : ℚ) ^ (-1075 : Int) = 1 / 2 * 2 ^ leastExponent := by
        rw [one_div,← zpow_neg_one,← zpow_add₀ (by norm_num)]; rfl
    _ ≤ 1 / 2 * 2 ^ x.exponent := by gcongr; norm_num
    _ ≤ v := hlow

variable {digits : Nat} {e : Int}

theorem Covers.digits_pos (h : x.Covers (digits * 10 ^ e)) (hm : 0 < x.significand) :
    0 < digits := by
  have hlow := h.pos hm
  have hpos : (0 : ℚ) < 2 ^ (-1075 : Int) := by positivity
  by_contra hzero
  rw [Nat.eq_zero_of_not_pos hzero,Nat.cast_zero,zero_mul] at hlow
  linarith

/-- A decimal near a finite double is not huge. -/
theorem Covers.power_le (h : x.Covers (digits * 10 ^ e)) (hx : x.isFinite = true)
    (hdigits : 0 < digits) : e ≤ 400 := by
  by_contra hlarge
  have hone : (1 : ℚ) ≤ digits := by exact_mod_cast hdigits
  have hpos : (0 : ℚ) < 10 ^ e := by positivity
  have hbig : (2 : ℚ) ^ (1024 : Int) < 10 ^ (401 : Int) :=
    two_pow_lt_ten_pow (m := 1024) (n := 401) (by decide)
  refine absurd h.lt (not_lt.mpr ?_)
  calc (2 : ℚ) ^ (x.exponent + 53)
      ≤ 2 ^ (1024 : Int) := zpow_le_zpow_right₀ (by norm_num) (by have := exponent_le hx; omega)
    _ ≤ 10 ^ (401 : Int) := hbig.le
    _ ≤ 10 ^ e := zpow_le_zpow_right₀ (by norm_num) (by omega)
    _ ≤ digits * 10 ^ e := le_mul_of_one_le_left hpos.le hone

/-- A decimal near a double other than zero is not tiny. -/
theorem Covers.le_power (h : x.Covers (digits * 10 ^ e)) (hm : 0 < x.significand) :
    -400 ≤ e + (digits.log2 / 3 + 1 : Nat) := by
  by_contra htiny
  have hpos : (0 : ℚ) < 10 ^ e := by positivity
  have hbig : (10 : ℚ) ^ (-400 : Int) < 2 ^ (-1075 : Int) := by
    rw [zpow_neg,zpow_neg]
    exact inv_strictAnti₀ (by positivity) (two_pow_lt_ten_pow (m := 1075) (n := 400) (by decide))
  refine absurd (h.pos hm) (not_le.mpr ?_)
  calc (digits : ℚ) * 10 ^ e
      < 10 ^ ((digits.log2 / 3 + 1 : Nat) : Int) * 10 ^ e :=
        mul_lt_mul_of_pos_right (lt_pow_log2 digits) hpos
    _ = 10 ^ (e + (digits.log2 / 3 + 1 : Nat)) := by rw [zpow_add₀ (by norm_num),mul_comm]
    _ ≤ 10 ^ (-400 : Int) := zpow_le_zpow_right₀ (by norm_num) (by omega)
    _ < 2 ^ (-1075 : Int) := hbig

/-- A decimal is rounded to the double that covers it. -/
theorem ofDecimal_eq (hx : x.isFinite = true) (hm : 0 < x.significand)
    (h : x.Covers (digits * 10 ^ e)) : ofDecimal x.isNegative digits e = x := by
  have hdigits := h.digits_pos hm
  have hsmall : ¬ 400 < e := not_lt.mpr (h.power_le hx hdigits)
  have hlarge : ¬ e + (digits.log2 / 3 + 1 : Nat) < -400 := not_lt.mpr (h.le_power hm)
  unfold ofDecimal
  rw [if_neg hdigits.ne',if_neg hsmall,if_neg hlarge]
  cases e with
  | ofNat k =>
    refine ofRatio_eq hx (by positivity) (by decide) ?_
    simpa using h
  | negSucc k =>
    refine ofRatio_eq hx hdigits (by positivity) ?_
    simpa [zpow_negSucc,div_eq_mul_inv] using h

theorem ofDecimal_zero (hm : x.magnitude = 0) (e : Int) : ofDecimal x.isNegative 0 e = x := by
  have hx := x.ofMagnitude_magnitude
  rw [hm] at hx
  simpa [ofDecimal] using hx

end Binary64

end IndexTrial
