import IndexTrial.Binary64.Spelling
import IndexTrial.Text.Blank

/-!
Decimal digits, written and read back. A run of digits ends where the text goes on with anything
else, or not at all.
-/

namespace IndexTrial

def AreDigits (cs : List Char) : Prop := ∀ c ∈ cs, c.isDigit = true

/-- The text does not go on with a digit. -/
def NoDigitNext (cs : List Char) : Prop := ∀ c ∈ cs.head?, c.isDigit = false

theorem noDigitNext_nil : NoDigitNext [] := by simp [NoDigitNext]

theorem noDigitNext_cons {c : Char} (h : c.isDigit = false) (cs : List Char) :
    NoDigitNext (c :: cs) := by
  simpa [NoDigitNext] using h

theorem AreDigits.append {a b : List Char} (ha : AreDigits a) (hb : AreDigits b) :
    AreDigits (a ++ b) := fun c hc => (List.mem_append.mp hc).elim (ha c) (hb c)

theorem isBlank_of_isDigit {c : Char} (h : c.isDigit = true) : isBlank c = false := by
  simp only [Char.isDigit,Bool.and_eq_true,decide_eq_true_eq,UInt32.le_iff_toNat_le,ge_iff_le] at h
  have hvalue : c.toNat = c.val.toNat := rfl
  have hzero : '0'.val.toNat = 48 := rfl
  have hnine : '9'.val.toNat = 57 := rfl
  simp only [isBlank,blankRanges,List.any_cons,List.any_nil,Bool.or_false,Bool.or_eq_false_iff,
    Bool.and_eq_false_iff,decide_eq_false_iff_not]
  omega

theorem spanDigits_eq {ds rest : List Char} (hds : AreDigits ds) (hrest : NoDigitNext rest) :
    spanDigits (ds ++ rest) = (ds,rest) := by
  have hstop : rest.takeWhile Char.isDigit = [] ∧ rest.dropWhile Char.isDigit = rest := by
    cases rest with
    | nil => exact ⟨rfl,rfl⟩
    | cons c cs =>
      have hc : c.isDigit = false := hrest c (by simp)
      simp [hc]
  rw [spanDigits,List.takeWhile_append_of_pos hds,List.dropWhile_append_of_pos hds,hstop.1,hstop.2,
    List.append_nil]

theorem digitsValue_append_eq (a b : List Char) :
    digitsValue (a ++ b) = digitsValue a * 10 ^ b.length + digitsValue b := by
  have h := @Nat.ofDigitChars_eq_ofDigitChars_zero b (digitsValue a)
  rw [digitsValue_append,Nat.mul_comm]
  exact h

@[simp] theorem digitsValue_zeros (k : Nat) : digitsValue (List.replicate k '0') = 0 :=
  Nat.ofDigitChars_replicate_zero

/-! ### Whole numbers -/

theorem areDigits_toDigits (n : Nat) : AreDigits (Nat.toDigits 10 n) :=
  fun _ hc => Nat.isDigit_of_mem_toDigits (by decide) (by decide) hc

@[simp] theorem digitsValue_toDigits (n : Nat) : digitsValue (Nat.toDigits 10 n) = n :=
  Nat.ofDigitChars_ten_toDigits

/-- No number starts with a zero but zero itself. -/
theorem head?_toDigits {n : Nat} (hn : 0 < n) : (Nat.toDigits 10 n).head? ≠ some '0' := by
  induction n using Nat.strongRecOn with
  | ind n ih =>
    by_cases h : n < 10
    · have hdigit : ∀ d < 10, 0 < d → some (Nat.digitChar d) ≠ some '0' := by decide
      rw [Nat.toDigits_of_lt_base h]
      exact hdigit n h hn
    · have hten := ih (n / 10) (by omega) (by omega)
      obtain ⟨c,cs,hcs⟩ := List.exists_cons_of_ne_nil (@Nat.toDigits_ne_nil (n / 10) 10)
      rw [hcs] at hten
      rw [Nat.toDigits_of_base_le (by decide) (by omega),hcs]
      exact hten

/-! ### Padded numbers -/

theorem toList_zeroPadded (width n : Nat) : (zeroPadded width n).toList =
    List.replicate (width - (Nat.toDigits 10 n).length) '0' ++ Nat.toDigits 10 n := by
  simp [zeroPadded,← String.length_toList]

theorem areDigits_zeroPadded (width n : Nat) : AreDigits (zeroPadded width n).toList := by
  rw [toList_zeroPadded]
  refine AreDigits.append ?_ (areDigits_toDigits n)
  intro c hc
  rw [List.eq_of_mem_replicate hc]
  decide

@[simp] theorem digitsValue_zeroPadded (width n : Nat) :
    digitsValue (zeroPadded width n).toList = n := by
  rw [toList_zeroPadded,digitsValue_append_eq,digitsValue_zeros,digitsValue_toDigits,Nat.zero_mul,
    Nat.zero_add]

theorem length_zeroPadded {width n : Nat} (hwidth : 0 < width) (hn : n < 10 ^ width) :
    (zeroPadded width n).toList.length = width := by
  have hle : (Nat.toDigits 10 n).length ≤ width :=
    (Nat.length_toDigits_le_iff (by decide) hwidth).mpr hn
  rw [toList_zeroPadded,List.length_append,List.length_replicate]
  omega

theorem zeroPadded_ne_nil (width n : Nat) : (zeroPadded width n).toList ≠ [] := by
  rw [toList_zeroPadded]
  exact List.append_ne_nil_of_right_ne_nil _ Nat.toDigits_ne_nil

/-! ### Numbers with a fraction -/

namespace Binary64

theorem one_lt_length_placedDigits (n : Nat) {places : Nat} (h : 0 < places) :
    1 < (placedDigits n places).length := by
  have hfraction : 0 < (zeroPadded places (n % 10 ^ places)).length := by
    rw [← String.length_toList]
    exact List.length_pos_iff.mpr (zeroPadded_ne_nil _ _)
  have hpoint : ".".length = 1 := rfl
  rw [placedDigits,if_neg (by omega),String.length_append,String.length_append,hpoint]
  omega

/-- A number with a fraction takes at least two characters. -/
theorem one_lt_length_fixedPlaces (x : Binary64) {places : Nat} (h : 0 < places) :
    1 < (x.fixedPlaces places).length := by
  have hdigits := one_lt_length_placedDigits (x.scaledPlaces places) h
  have hnan : "NaN".length = 3 := rfl
  have hinf : "inf".length = 3 := rfl
  unfold fixedPlaces
  split
  · omega
  · split <;> rw [String.length_append] <;> omega

end Binary64

end IndexTrial
