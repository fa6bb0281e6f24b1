import IndexTrial.Binary64.Shortest
import IndexTrial.Proofs.Binary64.Nearest

/-!
The shortest digits of a double stand for a number that rounds to it. The interval that the search
tests is the one of the reals that round to the double, and seventeen digits always have a point in
it, so that the search comes to an end with a hit.
-/

namespace IndexTrial

/-- The number that a decimal stands for. -/
def Decimal.value (d : Decimal) : ℚ := d.digits * 10 ^ d.exponent

namespace Binary64

/-! ### Ratios -/

def Ratio.value (r : Ratio) : ℚ := r.num / r.den

theorem Ratio.den_dyadic_pos (m : Nat) (q : Int) : 0 < (dyadic m q).den := by
  cases q <;> simp [dyadic]

theorem Ratio.den_decimal_pos (d : Nat) (e : Int) : 0 < (decimal d e).den := by
  cases e <;> simp [decimal]

@[simp] theorem Ratio.value_dyadic (m : Nat) (q : Int) : (dyadic m q).value = m * 2 ^ q := by
  cases q <;> simp [dyadic,value,zpow_negSucc,div_eq_mul_inv]

@[simp] theorem Ratio.value_decimal (d : Nat) (e : Int) : (decimal d e).value = d * 10 ^ e := by
  cases e <;> simp [decimal,value,zpow_negSucc,div_eq_mul_inv]

variable {a b : Ratio}

theorem Ratio.le_iff (ha : 0 < a.den) (hb : 0 < b.den) : a.le b = true ↔ a.value ≤ b.value := by
  have ha' : (0 : ℚ) < a.den := by exact_mod_cast ha
  have hb' : (0 : ℚ) < b.den := by exact_mod_cast hb
  rw [Ratio.le,decide_eq_true_eq,value,value,div_le_div_iff₀ ha' hb']
  exact_mod_cast Iff.rfl

theorem Ratio.lt_iff (ha : 0 < a.den) (hb : 0 < b.den) : a.lt b = true ↔ a.value < b.value := by
  have ha' : (0 : ℚ) < a.den := by exact_mod_cast ha
  have hb' : (0 : ℚ) < b.den := by exact_mod_cast hb
  rw [Ratio.lt,decide_eq_true_eq,value,value,div_lt_div_iff₀ ha' hb']
  exact_mod_cast Iff.rfl

/-! ### The interval of a double -/

variable {x : Binary64} {tie : ShortestTie}

theorem significand_pos (hx : x.magnitude ≠ 0) : 0 < x.significand := by
  unfold significand
  split <;> omega

/-- The magnitude as a rational. -/
def value (x : Binary64) : ℚ := x.significand * 2 ^ x.exponent

theorem lower_value (hm : 0 < x.significand) : x.roundingInterval.lower.value =
    (x.significand - x.lowerGap) * 2 ^ x.exponent := by
  have hsplit : ∀ k : Int, (2 : ℚ) ^ (x.exponent - k) = 2 ^ x.exponent / 2 ^ k :=
    fun k => zpow_sub₀ (by norm_num) _ _
  by_cases hnarrow : x.significand = 2 ^ 52 ∧ leastExponent < x.exponent
  · have hcast : ((4 * x.significand - 1 : Nat) : ℚ) = 4 * x.significand - 1 := by
      rw [Nat.cast_sub (by omega)]
      norm_num
    simp only [roundingInterval,lowerGap,hnarrow,and_self,Bool.and_true,decide_true,if_true,
      Ratio.value_dyadic,hsplit] at hcast ⊢
    rw [hcast]
    norm_num
    ring
  · have hcast : ((2 * x.significand - 1 : Nat) : ℚ) = 2 * x.significand - 1 := by
      rw [Nat.cast_sub (by omega)]
      norm_num
    have htest : (decide (x.significand = 2 ^ 52) && decide (leastExponent < x.exponent)) = false := by
      simpa using hnarrow
    simp only [roundingInterval,lowerGap,htest,if_neg hnarrow,Bool.false_eq_true,if_false,
      Ratio.value_dyadic,hsplit,hcast]
    ring

theorem upper_value (x : Binary64) : x.roundingInterval.upper.value =
    (x.significand + 1 / 2) * 2 ^ x.exponent := by
  have hsplit : (2 : ℚ) ^ (x.exponent - 1) = 2 ^ x.exponent / 2 := by
    rw [zpow_sub₀ (by norm_num),zpow_one]
  simp only [roundingInterval,Ratio.value_dyadic,hsplit]
  push_cast
  ring

/-- The interval that the search tests is that of the reals that round to the double. -/
theorem contains_iff (hm : 0 < x.significand) (d : Nat) (e : Int) :
    x.roundingInterval.contains (.decimal d e) = true ↔ x.Covers (d * 10 ^ e) := by
  have hpos : (0 : ℚ) < 2 ^ x.exponent := by positivity
  have hlower : 0 < x.roundingInterval.lower.den := by
    unfold roundingInterval
    dsimp only
    split <;> exact Ratio.den_dyadic_pos _ _
  have hupper : 0 < x.roundingInterval.upper.den := Ratio.den_dyadic_pos _ _
  have hdecimal := Ratio.den_decimal_pos d e
  have hclosed : x.roundingInterval.closed = decide (x.significand % 2 = 0) := rfl
  unfold RoundingInterval.contains
  rw [hclosed]
  by_cases heven : x.significand % 2 = 0
  · simp only [heven,decide_true,if_true,Bool.and_eq_true,Ratio.le_iff hlower hdecimal,
      Ratio.le_iff hdecimal hupper,lower_value hm,upper_value,Ratio.value_decimal,
      ← le_div_iff₀ hpos,← div_le_iff₀ hpos]
    exact ⟨fun h => ⟨h.1,h.2,.inl heven⟩,fun h => ⟨h.low,h.high⟩⟩
  · simp only [heven,decide_false,Bool.false_eq_true,if_false,Bool.and_eq_true,
      Ratio.lt_iff hlower hdecimal,Ratio.lt_iff hdecimal hupper,lower_value hm,upper_value,
      Ratio.value_decimal,← lt_div_iff₀ hpos,← div_lt_iff₀ hpos]
    exact ⟨fun h => ⟨h.1.le,h.2.le,.inr h⟩,fun h => h.even.resolve_left heven⟩

/-! ### The search -/

theorem covers_gridHit (hm : 0 < x.significand) {e : Int} {d : Decimal}
    (h : gridHit x tie e = some d) : x.Covers d.value := by
  have hcontains := contains_iff hm
  unfold gridHit at h
  dsimp only at h
  generalize gridBelow (.dyadic x.significand x.exponent) e = n at h
  -- a point is only taken after the test
  have hbelow : (decide (n ≠ 0) && x.roundingInterval.contains (.decimal n e)) = true →
      x.Covers (Decimal.mk n e).value := fun h => (hcontains n e).mp (Bool.and_eq_true_iff.mp h).2
  have habove : x.roundingInterval.contains (.decimal (n + 1) e) = true →
      x.Covers (Decimal.mk (n + 1) e).value := (hcontains (n + 1) e).mp
  have hparity : n + n % 2 = n ∨ n + n % 2 = n + 1 := by omega
  split at h
  · rename_i hboth
    obtain ⟨hlow,hhigh⟩ := Bool.and_eq_true_iff.mp hboth
    have hlow := hbelow hlow
    have hhigh := habove hhigh
    split at h
    · exact Option.some.inj h ▸ hlow
    · split at h
      · exact Option.some.inj h ▸ hhigh
      · cases tie with
        | toEven =>
          rw [← Option.some.inj h]
          rcases hparity with heven | hodd
          · rwa [heven]
          · rwa [hodd]
        | up => exact Option.some.inj h ▸ hhigh
  · split at h
    · rename_i hlow
      exact Option.some.inj h ▸ hbelow hlow
    · split at h
      · rename_i hhigh
        exact Option.some.inj h ▸ habove hhigh
      · simp at h

theorem gridHit_isSome (hm : 0 < x.significand) {e : Int} {n : Nat}
    (hn : gridBelow (.dyadic x.significand x.exponent) e = n)
    (h : x.Covers ((n + 1 : Nat) * 10 ^ e)) : (gridHit x tie e).isSome = true := by
  have habove := (contains_iff hm (n + 1) e).mpr h
  unfold gridHit
  dsimp only
  rw [hn,habove]
  cases tie <;> grind

theorem covers_firstHit (hm : 0 < x.significand) {e : Int} {fuel : Nat}
    (h : ∃ k : Nat, k < fuel ∧ (gridHit x tie (e - k)).isSome = true) :
    x.Covers (firstHit x tie e fuel).value := by
  induction fuel generalizing e with
  | zero => simp at h
  | succ fuel ih =>
    rw [firstHit]
    cases hhit : gridHit x tie e with
    | some d => exact covers_gridHit hm hhit
    | none =>
      obtain ⟨k,hk,hsome⟩ := h
      have hk0 : k ≠ 0 := by
        rintro rfl
        simp [hhit] at hsome
      refine ih ⟨k - 1,by omega,?_⟩
      have hshift : e - 1 - (k - 1 : Nat) = e - k := by omega
      rwa [hshift]

/-- The point of a grid just above a value. -/
theorem gridBelow_lt (r : Ratio) (hr : 0 < r.den) (e : Int) :
    gridBelow r e * 10 ^ e ≤ r.value ∧ r.value < (gridBelow r e + 1) * 10 ^ e := by
  have hden : (0 : ℚ) < r.den := by exact_mod_cast hr
  have hbounds : ∀ num den : Nat, 0 < den →
      ((num / den : Nat) : ℚ) ≤ num / den ∧ (num : ℚ) / den < (num / den : Nat) + 1 := by
    intro num den h
    have hpos : (0 : ℚ) < den := by exact_mod_cast h
    have hlow : num / den * den ≤ num := Nat.div_mul_le_self num den
    have hhigh : num < (num / den + 1) * den := Nat.lt_mul_of_div_lt (Nat.lt_succ_self _) h
    rw [le_div_iff₀ hpos,div_lt_iff₀ hpos]
    exact ⟨by exact_mod_cast hlow,by exact_mod_cast hhigh⟩
  cases e with
  | ofNat k =>
    have h := hbounds r.num (r.den * 10 ^ k) (by positivity)
    have hpow : (0 : ℚ) < 10 ^ k := by positivity
    have hvalue : (r.num : ℚ) / ((r.den * 10 ^ k : Nat) : ℚ) = r.value / 10 ^ k := by
      rw [Ratio.value,div_div]
      push_cast
      rfl
    rw [hvalue,le_div_iff₀ hpow,div_lt_iff₀ hpow] at h
    simpa [gridBelow] using h
  | negSucc k =>
    have h := hbounds (r.num * 10 ^ (k + 1)) r.den hr
    have hpow : (0 : ℚ) < 10 ^ (k + 1) := by positivity
    have hvalue : ((r.num * 10 ^ (k + 1) : Nat) : ℚ) / r.den = r.value * 10 ^ (k + 1) := by
      rw [Ratio.value]
      push_cast
      ring
    rw [hvalue] at h
    simp only [gridBelow,zpow_negSucc,← div_eq_mul_inv]
    rw [div_le_iff₀ hpow,lt_div_iff₀ hpow]
    exact h

/-- Seventeen digits are enough: their grid is finer than half a unit. -/
theorem gridHit_seventeen (hm : 0 < x.significand) {e : Int} (he : 10 ^ (e + 17) ≤ x.value) :
    (gridHit x tie e).isSome = true := by
  have hpos : (0 : ℚ) < 2 ^ x.exponent := by positivity
  obtain ⟨hlow,hhigh⟩ := gridBelow_lt (.dyadic x.significand x.exponent)
    (Ratio.den_dyadic_pos _ _) e
  rw [Ratio.value_dyadic] at hlow hhigh
  generalize hn : gridBelow (.dyadic x.significand x.exponent) e = n at hlow hhigh
  have hgrid : (10 : ℚ) ^ e < 1 / 2 * 2 ^ x.exponent := by
    have hm' : (x.significand : ℚ) < 2 ^ 53 := by exact_mod_cast x.significand_lt
    have hlt : x.value < 2 ^ 53 * 2 ^ x.exponent := mul_lt_mul_of_pos_right hm' hpos
    rw [zpow_add₀ (by norm_num)] at he
    norm_num at he hlt ⊢
    linarith
  have habove : x.significand < ((n + 1 : Nat) : ℚ) * 10 ^ e / 2 ^ x.exponent := by
    rw [lt_div_iff₀ hpos]
    exact_mod_cast hhigh
  have hnear : ((n + 1 : Nat) : ℚ) * 10 ^ e / 2 ^ x.exponent < x.significand + 1 / 2 := by
    rw [div_lt_iff₀ hpos]
    push_cast
    linarith
  have hgap := x.lowerGap_pos
  exact gridHit_isSome hm hn ⟨by linarith,hnear.le,.inr ⟨by linarith,hnear⟩⟩

/-! ### The place of the decimal point -/

theorem pow_decimalPoint_le {r : Ratio} (hr : 0 < r.den) {e : Int} (fuel : Nat)
    (h : (10 : ℚ) ^ (e - 1 - fuel) ≤ r.value) : (10 : ℚ) ^ (decimalPoint r e fuel - 1) ≤ r.value := by
  induction fuel generalizing e with
  | zero => simpa [decimalPoint] using h
  | succ fuel ih =>
    rw [decimalPoint]
    split
    · refine ih ?_
      have hshift : e - 1 - 1 - (fuel : Int) = e - 1 - (fuel + 1 : Nat) := by omega
      rwa [hshift]
    · rename_i hlow
      rw [Ratio.lt_iff hr (Ratio.den_decimal_pos _ _),Ratio.value_decimal,Nat.cast_one,one_mul,
        not_lt] at hlow
      split
      · rename_i hhigh
        rw [Ratio.le_iff (Ratio.den_decimal_pos _ _) hr,Ratio.value_decimal,Nat.cast_one,
          one_mul] at hhigh
        refine ih (LE.le.trans ?_ hhigh)
        exact zpow_le_zpow_right₀ (by norm_num) (by omega)
      · exact hlow

/-- A power of ten below a power of two, by the ratios `3 / 10` and `10 / 33` of their exponents. -/
theorem ten_zpow_le_two_zpow {b : Int} (hb : -1074 ≤ b) (hb' : b ≤ 1023) :
    (10 : ℚ) ^ (b * 30103 / 100000 - 8) ≤ 2 ^ b := by
  rcases le_total 0 b with h | h
  · obtain ⟨n,rfl⟩ := Int.eq_ofNat_of_zero_le h
    have hpow : 10 ^ (3 * (n / 10)) ≤ 2 ^ n :=
      calc 10 ^ (3 * (n / 10)) = (10 ^ 3) ^ (n / 10) := Nat.pow_mul ..
        _ ≤ (2 ^ 10) ^ (n / 10) := Nat.pow_le_pow_left (by decide) _
        _ = 2 ^ (10 * (n / 10)) := (Nat.pow_mul ..).symm
        _ ≤ 2 ^ n := Nat.pow_le_pow_right (by decide) (by omega)
    calc (10 : ℚ) ^ ((n : Int) * 30103 / 100000 - 8)
        ≤ 10 ^ ((3 * (n / 10) : Nat) : Int) := zpow_le_zpow_right₀ (by norm_num) (by omega)
      _ ≤ 2 ^ (n : Int) := by
        rw [zpow_natCast,zpow_natCast]
        exact_mod_cast hpow
  · obtain ⟨n,rfl⟩ := Int.exists_eq_neg_ofNat h
    have hpow : 2 ^ n ≤ 10 ^ (10 * (n / 33) + (n % 33 + 2) / 3) :=
      calc 2 ^ n ≤ 2 ^ (33 * (n / 33) + 3 * ((n % 33 + 2) / 3)) :=
            Nat.pow_le_pow_right (by decide) (by omega)
        _ = (2 ^ 33) ^ (n / 33) * 2 ^ (3 * ((n % 33 + 2) / 3)) := by rw [Nat.pow_add,Nat.pow_mul]
        _ ≤ (10 ^ 10) ^ (n / 33) * 10 ^ ((n % 33 + 2) / 3) :=
            Nat.mul_le_mul (Nat.pow_le_pow_left (by decide) _) (two_pow_le_ten_pow _)
        _ = 10 ^ (10 * (n / 33) + (n % 33 + 2) / 3) := by rw [Nat.pow_add,Nat.pow_mul]
    have hle : (-(n : Int)) * 30103 / 100000 - 8 ≤
        -((10 * (n / 33) + (n % 33 + 2) / 3 : Nat) : Int) := by omega
    calc (10 : ℚ) ^ ((-(n : Int)) * 30103 / 100000 - 8)
        ≤ 10 ^ (-((10 * (n / 33) + (n % 33 + 2) / 3 : Nat) : Int)) :=
          zpow_le_zpow_right₀ (by norm_num) hle
      _ ≤ 2 ^ (-(n : Int)) := by
        rw [zpow_neg,zpow_neg,zpow_natCast,zpow_natCast]
        exact inv_anti₀ (by positivity) (by exact_mod_cast hpow)

/-- The estimate is at most eight places too high. -/
theorem estimate_le (hx : x.isFinite = true) (hm : 0 < x.significand) :
    (10 : ℚ) ^ (x.decimalEstimate - 1 - 8) ≤ x.value := by
  have hlog : x.significand.log2 < 53 := (Nat.log2_lt hm.ne').mpr x.significand_lt
  have hleast := x.leastExponent_le
  have hmost := exponent_le hx
  have hshift : x.decimalEstimate - 1 - 8 =
      (x.exponent + x.significand.log2) * 30103 / 100000 - 8 := by
    unfold decimalEstimate
    omega
  have hself : 2 ^ x.significand.log2 ≤ x.significand := Nat.log2_self_le hm.ne'
  rw [hshift]
  unfold leastExponent at hleast
  calc (10 : ℚ) ^ ((x.exponent + x.significand.log2) * 30103 / 100000 - 8)
      ≤ 2 ^ (x.exponent + x.significand.log2) := ten_zpow_le_two_zpow (by omega) (by omega)
    _ = 2 ^ x.significand.log2 * 2 ^ x.exponent := by
      rw [zpow_add₀ (by norm_num),zpow_natCast,mul_comm]
    _ ≤ x.significand * 2 ^ x.exponent := by
      gcongr
      exact_mod_cast hself

/-! ### The digits -/

@[simp] theorem Decimal.value_trimmed (d : Decimal) (fuel : Nat) :
    (Decimal.trimmed d fuel).value = d.value := by
  induction fuel generalizing d with
  | zero => rfl
  | succ fuel ih =>
    rw [Decimal.trimmed]
    split
    · rename_i h
      have hten : (d.digits : ℚ) = (d.digits / 10 : Nat) * 10 := by
        exact_mod_cast (Nat.div_mul_cancel (Nat.dvd_of_mod_eq_zero h.2)).symm
      rw [ih,IndexTrial.Decimal.value,IndexTrial.Decimal.value,hten,zpow_add₀ (by norm_num)]
      simp only [zpow_one]
      ring
    · rfl

/-- The shortest digits of a double stand for a number that rounds to it. -/
theorem covers_shortest (hx : x.isFinite = true) (hm : 0 < x.significand) (tie : ShortestTie) :
    x.Covers (x.shortest tie).value := by
  have hpoint := pow_decimalPoint_le (Ratio.den_dyadic_pos x.significand x.exponent) 8
    (by rw [Ratio.value_dyadic]; exact estimate_le hx hm)
  rw [Ratio.value_dyadic] at hpoint
  unfold shortest
  rw [Decimal.value_trimmed]
  generalize decimalPoint _ _ _ = point at hpoint ⊢
  refine covers_firstHit hm ⟨17,by decide,gridHit_seventeen hm ?_⟩
  have hshift : point - 1 - ((17 : Nat) : Int) + 17 = point - 1 := by omega
  rwa [hshift]

/-- Whatever digits and exponent write the shortest digits of a double, they are read back as it. -/
theorem ofDecimal_shortest (hx : x.isFinite = true) (hm : x.magnitude ≠ 0) (tie : ShortestTie)
    (digits : Nat) (e : Int) (h : (digits : ℚ) * 10 ^ e = (x.shortest tie).value) :
    ofDecimal x.isNegative digits e = x :=
  ofDecimal_eq hx (significand_pos hm) (h ▸ covers_shortest hx (significand_pos hm) tie)

end Binary64

end IndexTrial
