import IndexTrial.Proofs.Binary64.Nearest

/-!
Ratios of equal values. A positive finite double divided by itself is one, and a positive count
below `2 ^ 64` becomes a positive finite double.
-/

namespace IndexTrial

namespace Binary64

open Float.Model (UnpackedFloat Format)
open Float.Model.UnpackedFloat

/-! ### Division -/

/-- The pattern of a finite number other than zero. -/
def NonzeroFinite (b : BitVec Format.binary64.numBits) : Prop :=
  unpackExponent b ≠ -1#_ ∧ (unpackExponent b = 0#_ → unpackMantissa b ≠ 0#_)

theorem toNat_append_pos {n : Nat} (v : BitVec n) : 0 < (1#1 ++ v).toNat := by simp

/-- Such a pattern has a significand and an exponent within the range of the format. -/
theorem unpack_of_nonzeroFinite {b : BitVec Format.binary64.numBits} (h : NonzeroFinite b) :
    ∃ s m e hm, unpack Format.binary64 b = .finite s m e hm ∧ m < 2 ^ 53 ∧ -1074 ≤ e ∧ e ≤ 971 := by
  obtain ⟨hexp,hmant⟩ := h
  have hbias : Format.binary64.exponentBias = 1023 := rfl
  have hm : (unpackMantissa b).toNat < 2 ^ 52 := (unpackMantissa b).isLt
  have he : (unpackExponent b).toNat < 2 ^ 11 := (unpackExponent b).isLt
  unfold unpack
  dsimp only
  rw [if_neg hexp]
  by_cases hzero : unpackExponent b = 0#11
  · have hpos : 0 < (unpackMantissa b).toNat := by
      simpa [BitVec.toNat_pos,BitVec.pos_iff_ne_zero] using hmant hzero
    rw [if_pos hzero,dif_neg (hmant hzero)]
    exact ⟨_,_,_,hpos,rfl,by omega,by simp [hzero,hbias],by simp [hzero,hbias]⟩
  · have hne : (unpackExponent b).toNat ≠ 0 := fun h => hzero (BitVec.eq_of_toNat_eq h)
    have hmax : (unpackExponent b).toNat ≠ 2047 := fun h => hexp (BitVec.eq_of_toNat_eq h)
    rw [if_neg hzero]
    exact ⟨_,_,_,toNat_append_pos _,rfl,(1#1 ++ unpackMantissa b).isLt,by rw [hbias]; omega,
      by rw [hbias]; omega⟩

/-- Within that range a number is packed into such a pattern again. -/
theorem nonzeroFinite_pack {s : Sign} {m : Nat} {e : Int} (hm : 0 < m) (hm' : m < 2 ^ 53)
    (he : -1074 ≤ e) (he' : e ≤ 971) :
    NonzeroFinite (pack Format.binary64 (.finite s m e hm)) := by
  have hbias : Format.binary64.exponentBias = 1023 := rfl
  have hbits : Format.binary64.mantissaBits = 53 := rfl
  unfold pack
  dsimp only
  rw [hbias,hbits,if_neg (by omega)]
  have hbiased : (e + 1023 + 52).toNat < 2 ^ 11 := by omega
  split
  · refine ⟨?_,?_⟩
    · rw [unpackExponent_packComponents]
      intro heq
      have := congrArg BitVec.toNat heq
      rw [BitVec.toNat_ofNat] at this
      change _ = 2047 at this
      omega
    · rw [unpackExponent_packComponents]
      intro heq
      have := congrArg BitVec.toNat heq
      rw [BitVec.toNat_ofNat] at this
      change _ = 0 at this
      omega
  · rename_i hlog
    have hlt : m.log2 < 53 := (Nat.log2_lt hm.ne').mpr hm'
    have hsmall : m < 2 ^ 52 := (Nat.log2_lt hm.ne').mp (by omega)
    refine ⟨?_,fun _ => ?_⟩
    · rw [unpackExponent_packComponents]
      decide
    · rw [unpackMantissa_packComponents]
      intro heq
      have := congrArg BitVec.toNat heq
      rw [BitVec.toNat_ofNat,Nat.mod_eq_of_lt hsmall] at this
      exact hm.ne' this

/-- The quotient of equal significands is exact, so nothing is rounded. -/
theorem div_self_finite (s : Sign) (m : Nat) (e : Int) (hm : 0 < m) :
    UnpackedFloat.div Format.binary64 (.finite s m e hm) (.finite s m e hm) =
      .finite .positive (2 ^ 52) (-52) (by decide) := by
  have htarget : min 0 (Format.binary64.targetExponent 0) = -53 := by decide
  have hcore : divCore Format.binary64 m e m e = (2 ^ 53,-53,.exact) := by
    simp only [divCore,sub_self,htarget]
    simp [Nat.shiftLeft_eq,hm,accuracyOfFraction]
  unfold UnpackedFloat.div
  dsimp only
  rw [hcore]
  cases s <;> rfl

theorem toNat_unpackExponent (b : BitVec Format.binary64.numBits) :
    (unpackExponent b).toNat = b.toNat / 2 ^ 52 % 2 ^ 11 := by
  simp [unpackExponent,BitVec.extractLsb_toNat,Nat.shiftRight_eq_div_pow]

theorem toNat_unpackMantissa (b : BitVec Format.binary64.numBits) :
    (unpackMantissa b).toNat = b.toNat % 2 ^ 52 := by
  simp [unpackMantissa,BitVec.extractLsb_toNat]

/-- The magnitude of a positive number. -/
theorem magnitude_pos {x : Binary64} (h : zero.lt x) : 0 < x.magnitude := by
  simp only [lt,Bool.and_eq_true,decide_eq_true_eq] at h
  have hkey : 0 < x.numericKey := h.2
  unfold numericKey at hkey
  split at hkey <;> omega

theorem nonzeroFinite_bits {x : Binary64} (hpos : 0 < x.magnitude) (hx : x.isFinite) :
    NonzeroFinite x.bits.toBitVec := by
  have hfin : x.magnitude < 0x7ff * 2 ^ 52 := of_decide_eq_true hx
  unfold magnitude at hpos hfin
  have htoNat : x.bits.toBitVec.toNat = x.bits.toNat := rfl
  constructor
  · intro heq
    have hexp := congrArg BitVec.toNat heq
    rw [toNat_unpackExponent,htoNat] at hexp
    change _ = 2047 at hexp
    omega
  · intro hzero heq
    have hexp := congrArg BitVec.toNat hzero
    have hmant := congrArg BitVec.toNat heq
    rw [toNat_unpackExponent,htoNat] at hexp
    rw [toNat_unpackMantissa,htoNat] at hmant
    change _ = 0 at hexp
    change _ = 0 at hmant
    omega

/-- A positive finite number divided by itself is one. -/
theorem div_self {x : Binary64} (hpos : zero.lt x) (hx : x.isFinite) : x.div x = one := by
  obtain ⟨s,m,e,hm,hunpack,hlt,hge,hle⟩ :=
    unpack_of_nonzeroFinite (nonzeroFinite_bits (magnitude_pos hpos) hx)
  obtain ⟨s',m',e',hm',hpacked,-⟩ :=
    unpack_of_nonzeroFinite (nonzeroFinite_pack (s := s) hm hlt hge hle)
  have hmodel : (Float.Model.ofBits x.bits).unpack = .finite s' m' e' hm' := by
    unfold Float.Model.ofBits Float.Model.pack Float.Model.unpack
    rw [hunpack]
    exact hpacked
  have hdiv : (Float.Model.ofBits x.bits).div (.ofBits x.bits) =
      .pack (.finite .positive (2 ^ 52) (-52) (by decide)) := by
    rw [Float.Model.div,hmodel,div_self_finite]
  apply ext_bits
  change ((Float.Model.ofBits x.bits).div (.ofBits x.bits)).toBits = one.bits
  rw [hdiv]
  decide

/-! ### Counts -/

/-- A pattern between those of zero and infinity. -/
theorem ofMagnitude_positive {k : Nat} (hpos : 0 < k) (hk : k < infinityMagnitude) :
    zero.lt (ofMagnitude false k) ∧ (ofMagnitude false k).isFinite := by
  unfold infinityMagnitude at hk
  have hbits : (ofMagnitude false k).bits.toNat = k := by
    simp only [ofMagnitude,Bool.false_eq_true,if_false,UInt64.toNat_ofNat']
    omega
  have hmagnitude : (ofMagnitude false k).magnitude = k := by
    rw [magnitude,hbits]
    omega
  have hsign : (ofMagnitude false k).isNegative = false := by
    rw [isNegative,hbits,decide_eq_false_iff_not]
    omega
  have hkey : (ofMagnitude false k).numericKey = k := by simp [numericKey,hsign,hmagnitude]
  have hzeroKey : zero.numericKey = 0 := rfl
  have hzero : zero.isNaN = false := by decide
  have hnan : (ofMagnitude false k).isNaN = false := by
    rw [isNaN,hmagnitude,decide_eq_false_iff_not]
    exact not_lt.mpr hk.le
  constructor
  · simp [lt,hzero,hnan,hzeroKey,hkey,hpos]
  · rw [isFinite,hmagnitude]
    exact decide_eq_true hk

/-- The exponent and the rounded significand of a positive count below `2 ^ 64`. -/
theorem ratioExponent_ofNat {n : Nat} (hpos : 0 < n) (hn : n < 2 ^ 64) :
    leastExponent < ratioExponent n 1 ∧ ratioExponent n 1 ≤ 11 ∧
      2 ^ 52 ≤ (scaledRatio n 1 (ratioExponent n 1)).1 / (scaledRatio n 1 (ratioExponent n 1)).2 ∧
      (scaledRatio n 1 (ratioExponent n 1)).1 / (scaledRatio n 1 (ratioExponent n 1)).2 < 2 ^ 53 := by
  have hq := normalizes_ratioExponent hpos Nat.one_pos
  obtain ⟨hs,hscaled⟩ := scaledRatio_eq n Nat.one_pos (ratioExponent n 1)
  generalize ratioExponent n 1 = q at *
  generalize scaledRatio n 1 q = s at *
  rw [Nat.cast_one,div_one] at hq hscaled
  have hsPos : (0 : ℚ) < s.2 := by exact_mod_cast hs
  have hpow : (0 : ℚ) < 2 ^ q := by positivity
  have hn' : (n : ℚ) < 2 ^ 64 := by exact_mod_cast hn
  have hone : (1 : ℚ) ≤ n := by exact_mod_cast hpos
  have hleast : leastExponent < q := by
    refine lt_of_le_of_ne hq.least fun heq => ?_
    have hlt := hq.lt
    rw [← heq] at hlt
    have hsmall : (2 : ℚ) ^ (leastExponent + 53) ≤ 1 :=
      zpow_le_one_of_nonpos₀ (by norm_num) (by decide)
    linarith
  have hlow := hq.le hleast
  refine ⟨hleast,?_,?_,?_⟩
  · by_contra hlarge
    have hge : (2 : ℚ) ^ 64 ≤ 2 ^ (q + 52) := by
      have hexponent : (64 : Int) ≤ q + 52 := by omega
      exact_mod_cast zpow_le_zpow_right₀ (a := (2 : ℚ)) (by norm_num) hexponent
    linarith
  · rw [Nat.le_div_iff_mul_le hs]
    rw [add_comm,zpow_add₀ (by norm_num),← le_div_iff₀ hpow,← hscaled,le_div_iff₀ hsPos] at hlow
    exact_mod_cast hlow
  · rw [Nat.div_lt_iff_lt_mul hs]
    have hhigh := hq.lt
    rw [add_comm,zpow_add₀ (by norm_num),← div_lt_iff₀ hpow,← hscaled,div_lt_iff₀ hsPos] at hhigh
    exact_mod_cast hhigh

/-- A positive count is a positive finite number. -/
theorem ofNat_positive {n : Nat} (hpos : 0 < n) (hn : n < 2 ^ 64) :
    zero.lt (ofNat n) ∧ (ofNat n).isFinite := by
  obtain ⟨hleast,hmost,hlow,hhigh⟩ := ratioExponent_ofNat hpos hn
  have hround := roundedQuotient_eq_or (scaledRatio n 1 (ratioExponent n 1)).1
    (scaledRatio n 1 (ratioExponent n 1)).2
  unfold ofNat ofRatio
  rw [if_neg hpos.ne']
  dsimp only
  generalize roundedQuotient _ _ = m at *
  generalize ratioExponent n 1 = q at *
  unfold leastExponent at hleast ⊢
  have hpattern : (if m < 2 ^ 52 then m else (q - -1074).toNat * 2 ^ 52 + m) < infinityMagnitude := by
    unfold infinityMagnitude
    split <;> omega
  rw [Nat.min_eq_left hpattern.le]
  refine ofMagnitude_positive ?_ hpattern
  split <;> omega

end Binary64

end IndexTrial
