import IndexTrial.Proofs.Text.Digits
import IndexTrial.Proofs.Time.Calendar

/-!
A moment is read back from its RFC 3339 form. Every part of the form is padded to the width that its
reader takes, and the calendar gives back the day.
-/

namespace IndexTrial

theorem trimBlankStart_of_solid {c : Char} (h : isBlank c = false) (cs : List Char) :
    trimBlankStart (c :: cs) = c :: cs := List.dropWhile_cons_of_neg (by simp [h])

namespace Moment

/-- A moment that a date and a clock can show: its year is in the range, and a leap second comes
after second 59. -/
structure Valid (m : Moment) : Prop where
  year : CivilDate.yearInRange m.date.year = true
  nanos : m.nanos < 2 * 10 ^ 9
  leap : 10 ^ 9 ≤ m.nanos → m.secondOfDay % 60 = 59

/-! ### The parts -/

variable {rest : List Char}

theorem readField_zeroPadded (width n : Nat) (hwidth : 0 < width) (hn : n < 10 ^ width) :
    readField width ((zeroPadded width n).toList ++ rest) = some (n,rest) := by
  have hlength := length_zeroPadded hwidth hn
  have hdigits := areDigits_zeroPadded width n
  have hvalue := digitsValue_zeroPadded width n
  generalize (zeroPadded width n).toList = ds at *
  have hstart : trimBlankStart (ds ++ rest) = ds ++ rest := by
    cases ds with
    | nil => simp only [List.length_nil] at hlength; omega
    | cons d ds => exact trimBlankStart_of_solid (isBlank_of_isDigit (hdigits d (by simp))) _
  have htake : ((ds ++ rest).take width).takeWhile Char.isDigit = ds := by
    have hwhole : (ds ++ []).takeWhile Char.isDigit = ds ++ [].takeWhile Char.isDigit :=
      List.takeWhile_append_of_pos hdigits
    rw [← hlength,List.take_left]
    simpa using hwhole
  have hne : ds.isEmpty = false := by
    cases ds with
    | nil => simp only [List.length_nil] at hlength; omega
    | cons d ds => rfl
  rw [readField]
  simp only [hstart,htake,hne,Bool.false_eq_true,if_false,hvalue,List.drop_left]

theorem readMark_cons {mark : Char} (h : isBlank mark = false) (cs : List Char) :
    readMark mark (mark :: cs) = some cs := by
  simp [readMark,trimBlankStart_of_solid h]

theorem readYear_yearText {year : Int} (hrest : NoDigitNext rest) :
    readYear ((CivilDate.yearText year).toList ++ rest) = some (year,rest) := by
  unfold CivilDate.yearText
  split
  · rename_i h
    have hvalue : ((year.toNat : Nat) : Int) = year := by omega
    have hfield : readField 4 ((zeroPadded 4 year.toNat).toList ++ rest) =
        some (year.toNat,rest) := readField_zeroPadded _ _ (by decide) (by omega)
    have hdigits := areDigits_zeroPadded 4 year.toNat
    obtain ⟨d,ds,hds⟩ := List.exists_cons_of_ne_nil (zeroPadded_ne_nil 4 year.toNat)
    rw [hds] at hfield hdigits ⊢
    have hd : d.isDigit = true := hdigits d (by simp)
    have hne : d ≠ '-' ∧ d ≠ '+' := by
      constructor <;> rintro rfl <;> exact absurd hd (by decide)
    unfold readYear
    rw [List.cons_append,trimBlankStart_of_solid (isBlank_of_isDigit hd)]
    rw [List.cons_append] at hfield
    simp [hne.1,hne.2,hfield,hvalue]
  · rename_i h
    have hspan := spanDigits_eq (areDigits_zeroPadded 4 year.natAbs) hrest
    have hne := zeroPadded_ne_nil 4 year.natAbs
    have hvalue := digitsValue_zeroPadded 4 year.natAbs
    unfold readYear
    by_cases hneg : year < 0
    · have hminus : "-".toList = ['-'] := rfl
      have habs : -((year.natAbs : Nat) : Int) = year := by omega
      generalize year.natAbs = n at hspan hne hvalue habs ⊢
      simp [hneg,hminus,trimBlankStart_of_solid (show isBlank '-' = false by decide),hspan,hne,
        hvalue,habs]
    · have hplus : "+".toList = ['+'] := rfl
      have habs : ((year.natAbs : Nat) : Int) = year := by omega
      generalize year.natAbs = n at hspan hne hvalue habs ⊢
      simp [hneg,hplus,trimBlankStart_of_solid (show isBlank '+' = false by decide),hspan,hne,
        hvalue,habs]

/-- A written fraction of up to nine digits. -/
theorem readFraction_zeroPadded (width n : Nat) (hwidth : 0 < width) (hwidth' : width ≤ 9)
    (hn : n < 10 ^ width) (hrest : NoDigitNext rest) :
    readFraction ('.' :: ((zeroPadded width n).toList ++ rest)) =
      some (n * 10 ^ (9 - width),rest) := by
  have hspan := spanDigits_eq (areDigits_zeroPadded width n) hrest
  have hne := zeroPadded_ne_nil width n
  have hlength := length_zeroPadded hwidth hn
  have hvalue := digitsValue_zeroPadded width n
  simp only [readFraction,hspan]
  rw [List.take_of_length_le (by omega),hvalue,hlength]
  simp [hne]

theorem readFraction_fractionText {nanos : Nat} (hnanos : nanos < 10 ^ 9)
    (hrest : NoDigitNext rest) (hpoint : ∀ c ∈ rest.head?, c ≠ '.') :
    readFraction ((fractionText nanos).toList ++ rest) = some (nanos,rest) := by
  have hdot : ".".toList = ['.'] := rfl
  unfold fractionText
  split
  · rename_i h
    cases rest with
    | nil => simp [readFraction,h]
    | cons c cs =>
      have hc : c ≠ '.' := hpoint c (by simp)
      simp [readFraction,h,hc]
  split
  · have hread := readFraction_zeroPadded 3 (nanos / 10 ^ 6) (by decide) (by decide)
      (by omega) hrest
    have hvalue : nanos / 10 ^ 6 * 10 ^ (9 - 3) = nanos := by omega
    rw [hvalue] at hread
    simpa [hdot] using hread
  split
  · have hread := readFraction_zeroPadded 6 (nanos / 10 ^ 3) (by decide) (by decide)
      (by omega) hrest
    have hvalue : nanos / 10 ^ 3 * 10 ^ (9 - 6) = nanos := by omega
    rw [hvalue] at hread
    simpa [hdot] using hread
  · have hread := readFraction_zeroPadded 9 nanos (by decide) (by decide)
      hnanos hrest
    simpa [hdot] using hread

/-! ### The whole -/

theorem toList_zulu (m : Moment) : m.zulu.toList =
    (CivilDate.yearText m.date.year).toList ++ '-' :: ((zeroPadded 2 m.date.month).toList ++
      '-' :: ((zeroPadded 2 m.date.day).toList ++ 'T' :: ((zeroPadded 2 m.hour).toList ++
        ':' :: ((zeroPadded 2 m.minute).toList ++ ':' :: ((zeroPadded 2 m.second).toList ++
          ((fractionText (m.nanos % 10 ^ 9)).toList ++ ['Z'])))))) := by
  have hdash : "-".toList = ['-'] := rfl
  have htee : "T".toList = ['T'] := rfl
  have hcolon : ":".toList = [':'] := rfl
  have hzed : "Z".toList = ['Z'] := rfl
  simp [zulu,localText,hdash,htee,hcolon,hzed]

theorem day_le_of_isValid {d : CivilDate} (h : d.isValid = true) : d.month ≤ 12 ∧ d.day ≤ 31 := by
  have hlength : ∀ year month, CivilDate.monthLength year month ≤ 31 := by
    intro year month
    unfold CivilDate.monthLength
    split
    · split <;> decide
    all_goals decide
  simp only [CivilDate.isValid,Bool.and_eq_true,decide_eq_true_eq] at h
  exact ⟨h.1.1.2,h.2.trans (hlength _ _)⟩

theorem secondOfDay_eq (m : Moment) : (m.secondOfDay : Int) = m.seconds % 86400 := by
  have hfmod : m.seconds.fmod 86400 = m.seconds % 86400 :=
    Int.fmod_eq_emod_of_nonneg _ (by decide)
  unfold secondOfDay
  omega

/-- Hour and minute stay within their digits, and make up the time of day with the second. -/
theorem clock_eq (m : Moment) : m.hour < 24 ∧ m.minute < 60 ∧
    m.hour * 3600 + m.minute * 60 + m.secondOfDay % 60 = m.secondOfDay := by
  have hclock := m.secondOfDay_eq
  unfold hour minute
  omega

/-- Second 60 is the leap second. -/
theorem Valid.second_eq {m : Moment} (h : m.Valid) : m.second ≤ 60 ∧
    (if m.second = 60 then 59 else m.second) = m.secondOfDay % 60 ∧
    m.nanos % 10 ^ 9 + (if m.second = 60 then 10 ^ 9 else 0) = m.nanos := by
  have hleap := h.leap
  have hnanos := h.nanos
  unfold second
  refine ⟨by omega,?_,?_⟩ <;> split <;> omega

/-- A day and a time of day make up the seconds. -/
theorem seconds_eq (m : Moment) : m.date.toDays * 86400 +
    (m.hour * 3600 + m.minute * 60 + ((m.secondOfDay % 60 : Nat) : Int)) - 0 = m.seconds := by
  have hdays : m.date.toDays = m.seconds.fdiv 86400 := CivilDate.toDays_ofDays _
  have hfdiv : m.seconds.fdiv 86400 = m.seconds / 86400 :=
    Int.fdiv_eq_ediv_of_nonneg _ (by decide)
  have hclock := m.secondOfDay_eq
  obtain ⟨-,-,hsum⟩ := m.clock_eq
  omega

/-- A valid moment is read back from its RFC 3339 form. -/
theorem Valid.read?_zulu {m : Moment} (h : m.Valid) : read? m.zulu = some m := by
  have hdate : m.date.isValid = true := CivilDate.isValid_ofDays h.year
  obtain ⟨hmonth,hday⟩ := day_le_of_isValid hdate
  obtain ⟨hhour,hminute,-⟩ := m.clock_eq
  obtain ⟨hsecond,hsecondOf,hnanosOf⟩ := h.second_eq
  have hdash := readMark_cons (show isBlank '-' = false by decide)
  have hcolon := readMark_cons (show isBlank ':' = false by decide)
  have hfraction := readFraction_fractionText (Nat.mod_lt m.nanos (by decide))
    (noDigitNext_cons (c := 'Z') (by decide) []) (by simp)
  have hoffset : readOffset (trimBlankStart ['Z']) = some (0,[]) := by decide
  have hempty : (trimBlankStart []).isEmpty = true := rfl
  have hdated : (⟨m.date.year,m.date.month,m.date.day⟩ : CivilDate) = m.date := rfl
  unfold read?
  rw [Option.bind_eq_bind,Option.bind_eq_bind,Option.bind_eq_bind]
  -- one part a step: what is left behind a part occurs many times in what reads it
  rw [toList_zulu,readYear_yearText (noDigitNext_cons (by decide) _),Option.bind_some]
  dsimp only
  rw [hdash,Option.bind_some,readField_zeroPadded 2 m.date.month (by decide) (by omega),
    Option.bind_some]
  dsimp only
  rw [hdash,Option.bind_some,readField_zeroPadded 2 m.date.day (by decide) (by omega),
    Option.bind_some]
  dsimp only
  change (some _).bind _ = _
  rw [Option.bind_some,readField_zeroPadded 2 m.hour (by decide) (by omega),Option.bind_some]
  dsimp only
  rw [hcolon,Option.bind_some,readField_zeroPadded 2 m.minute (by decide) (by omega),
    Option.bind_some]
  dsimp only
  rw [hcolon,Option.bind_some,readField_zeroPadded 2 m.second (by decide) (by omega),
    Option.bind_some]
  dsimp only
  rw [hfraction,Option.bind_some]
  dsimp only
  rw [hoffset,Option.bind_some]
  simp only [hdated,hdate,hsecondOf,hnanosOf,m.seconds_eq,h.year,if_true]
  rw [if_neg]
  simp only [hempty,Bool.not_true,Bool.false_or,Bool.or_eq_true,decide_eq_true_eq]
  omega

end Moment

end IndexTrial
