import IndexTrial.Json.Reader
import IndexTrial.Proofs.Binary64.Digits
import IndexTrial.Proofs.Text.Digits

/-!
Numbers in JSON texts. A number ends where the text goes on with none of its characters; up to there
a double or a whole number is read back as it was written, whichever of its forms was chosen.
-/

namespace IndexTrial

namespace Json

/-- No character that could belong to a number comes next. -/
structure NumberEnds (rest : List Char) : Prop where
  digit : NoDigitNext rest
  point : ∀ c ∈ rest.head?, c ≠ '.'
  exponent : ∀ c ∈ rest.head?, c ≠ 'e' ∧ c ≠ 'E'

theorem numberEnds_nil : NumberEnds [] := ⟨noDigitNext_nil,by simp,by simp⟩

theorem numberEnds_cons {c : Char} (h : c.isDigit = false ∧ c ≠ '.' ∧ c ≠ 'e' ∧ c ≠ 'E')
    (cs : List Char) : NumberEnds (c :: cs) :=
  ⟨noDigitNext_cons h.1 cs,by simpa using h.2.1,by simpa using h.2.2⟩

/-- The part of a number before its point: digits, a zero in front only if it is the only one. -/
structure IsWhole (whole : List Char) : Prop where
  digits : AreDigits whole
  ne_nil : whole ≠ []
  zero : whole.length = 1 ∨ whole.head? ≠ some '0'

theorem isWhole_singleton {c : Char} (hc : c.isDigit = true) : IsWhole [c] :=
  ⟨by simpa [AreDigits] using hc,by simp,.inl rfl⟩

theorem isWhole_toDigits (n : Nat) : IsWhole (Nat.toDigits 10 n) := by
  refine ⟨areDigits_toDigits n,Nat.toDigits_ne_nil,?_⟩
  rcases Nat.eq_zero_or_pos n with rfl | hn
  · exact .inl rfl
  · exact .inr (head?_toDigits hn)

variable {whole fraction rest : List Char}

theorem IsWhole.accepted (h : IsWhole whole) :
    (whole.isEmpty || (whole.length ≠ 1 && whole.head? = some '0')) = false := by
  have hne := h.ne_nil
  rcases h.zero with hone | hzero
  · simp [hne,hone]
  · simp [hne,hzero]

/-! ### The forms of a number -/

theorem readNumber_whole (negative : Bool) (hwhole : IsWhole whole) (hrest : NumberEnds rest) :
    readNumber negative (whole ++ rest) = some (wholeNumber negative (digitsValue whole),rest) := by
  unfold readNumber
  rw [spanDigits_eq hwhole.digits hrest.digit]
  dsimp only
  rw [hwhole.accepted]
  cases rest with
  | nil => simp
  | cons c cs =>
    have hpoint : c ≠ '.' := hrest.point c (by simp)
    have hexponent : c ≠ 'e' ∧ c ≠ 'E' := hrest.exponent c (by simp)
    simp [hpoint,hexponent]

theorem readNumber_point (negative : Bool) (hwhole : IsWhole whole) (hfraction : AreDigits fraction)
    (hne : fraction ≠ []) (hrest : NumberEnds rest) :
    readNumber negative (whole ++ '.' :: (fraction ++ rest)) =
      some (.float (.ofDecimal negative (digitsValue (whole ++ fraction)) (-fraction.length)),
        rest) := by
  unfold readNumber
  rw [spanDigits_eq hwhole.digits (noDigitNext_cons (by decide) _)]
  dsimp only
  simp only [hwhole.accepted,Bool.false_eq_true,if_false,spanDigits_eq hfraction hrest.digit]
  cases rest with
  | nil => simp [hne]
  | cons c cs =>
    have hexponent : c ≠ 'e' ∧ c ≠ 'E' := hrest.exponent c (by simp)
    simp [hne,hexponent]

/-- The exponent of a number as it is written. -/
def exponentText (e : Int) : List Char :=
  'e' :: (if e < 0 then '-' else '+') :: Nat.toDigits 10 e.natAbs

theorem readExponent_eq (e : Int) (hrest : NumberEnds rest) :
    readExponent ((if e < 0 then '-' else '+') :: (Nat.toDigits 10 e.natAbs ++ rest)) =
      some (e,rest) := by
  have hspan := spanDigits_eq (areDigits_toDigits e.natAbs) hrest.digit
  unfold readExponent
  by_cases he : e < 0
  · have hvalue : -((e.natAbs : Nat) : Int) = e := by omega
    simp only [he,if_true,hspan,digitsValue_toDigits,hvalue]
    simp
  · have hvalue : ((e.natAbs : Nat) : Int) = e := by omega
    simp only [he,if_false,hspan,digitsValue_toDigits,hvalue]
    simp

theorem readNumber_exponent (negative : Bool) (hwhole : IsWhole whole)
    (hfraction : AreDigits fraction) (e : Int) (hrest : NumberEnds rest) :
    readNumber negative (whole ++ ((if fraction = [] then [] else '.' :: fraction) ++
        (exponentText e ++ rest))) =
      some (.float (.ofDecimal negative (digitsValue (whole ++ fraction)) (e - fraction.length)),
        rest) := by
  have hexponent := readExponent_eq e hrest
  have hmark : NoDigitNext (exponentText e ++ rest) := noDigitNext_cons (by decide) _
  unfold readNumber
  by_cases hne : fraction = []
  · subst hne
    rw [if_pos rfl,List.nil_append,spanDigits_eq hwhole.digits hmark]
    dsimp only
    rw [hwhole.accepted]
    simp [exponentText,hexponent]
  · rw [if_neg hne,List.cons_append,spanDigits_eq hwhole.digits (noDigitNext_cons (by decide) _)]
    dsimp only
    simp only [hwhole.accepted,Bool.false_eq_true,if_false,spanDigits_eq hfraction hmark]
    simp [exponentText,hexponent,hne]

end Json

/-! ### Doubles -/

namespace Binary64

open Json

variable {x : Binary64} {rest : List Char}

/-- A text that is read as a double of a given sign once the sign is taken away. -/
structure Spells (x : Binary64) (cs : List Char) : Prop where
  digit : ∃ c ∈ cs.head?, c.isDigit = true
  read : ∀ rest, NumberEnds rest → readNumber x.isNegative (cs ++ rest) = some (.float x,rest)

theorem spells_point {whole : List Char} (fraction : List Char) (hwhole : IsWhole whole)
    (hfraction : AreDigits fraction) (hne : fraction ≠ [])
    (h : ofDecimal x.isNegative (digitsValue (whole ++ fraction)) (-fraction.length) = x) :
    x.Spells (whole ++ '.' :: fraction) := by
  refine ⟨?_,fun rest hrest => ?_⟩
  · obtain ⟨c,cs,rfl⟩ := List.exists_cons_of_ne_nil hwhole.ne_nil
    exact ⟨c,by simp,hwhole.digits c (by simp)⟩
  · rw [List.append_assoc,List.cons_append,readNumber_point _ hwhole hfraction hne hrest,h]

theorem spells_zero (hx : x.magnitude = 0) : x.Spells "0.0".toList := by
  have hzero : IsWhole ['0'] := isWhole_singleton (by decide)
  exact spells_point ['0'] hzero hzero.digits hzero.ne_nil (ofDecimal_zero hx _)

theorem spells_positional (hx : x.isFinite = true) (hm : x.magnitude ≠ 0) (tie : ShortestTie) :
    x.Spells (Decimal.positional (x.shortest tie) ++
      if 0 ≤ (x.shortest tie).exponent then ".0" else "").toList := by
  have hread := ofDecimal_shortest hx hm tie
  generalize x.shortest tie = d at hread
  obtain ⟨digits,e⟩ := d
  cases e with
  | ofNat k =>
    have hzero : IsWhole ['0'] := isWhole_singleton (by decide)
    have hexponent : (0 : Int) ≤ Int.ofNat k := Int.natCast_nonneg k
    simp only [Decimal.positional,hexponent,if_true,String.toList_append,Nat.toList_repr]
    refine spells_point ['0'] (isWhole_toDigits _) hzero.digits hzero.ne_nil
      (hread _ _ ?_)
    rw [digitsValue_append_eq,digitsValue_toDigits,IndexTrial.Decimal.value]
    have hvalue : digitsValue ['0'] = 0 := rfl
    simp [hvalue]
  | negSucc k =>
    have hexponent : ¬ (0 : Int) ≤ Int.negSucc k := by omega
    have hlt : digits % 10 ^ (k + 1) < 10 ^ (k + 1) := Nat.mod_lt _ (by positivity)
    have hlength := length_zeroPadded (Nat.succ_pos k) hlt
    have hvalue : digits / 10 ^ (k + 1) * 10 ^ (k + 1) + digits % 10 ^ (k + 1) = digits :=
      Nat.div_add_mod' ..
    simp only [Decimal.positional,hexponent,if_false,placedDigits,Nat.succ_ne_zero,
      String.toList_append,Nat.toList_repr,List.append_assoc]
    have hspells := spells_point (x := x) _ (isWhole_toDigits (digits / 10 ^ (k + 1)))
      (areDigits_zeroPadded (k + 1) (digits % 10 ^ (k + 1))) (zeroPadded_ne_nil _ _)
      (hread _ _ (by
        rw [digitsValue_append_eq,digitsValue_toDigits,digitsValue_zeroPadded,hlength,hvalue]
        rfl))
    simpa using hspells

theorem toList_scientific {d : Decimal} {c : Char} {cs : List Char} (leading : Int)
    (h : Nat.toDigits 10 d.digits = c :: cs) : (scientific d leading).toList =
      [c] ++ ((if cs = [] then [] else '.' :: cs) ++ exponentText leading) := by
  have hsign : (if leading < 0 then "-" else "+").toList = [if leading < 0 then '-' else '+'] := by
    split <;> rfl
  have hfraction : (if (String.ofList cs).isEmpty then "" else "." ++ String.ofList cs).toList =
      if cs = [] then [] else '.' :: cs := by
    cases cs <;> simp
  simp only [scientific,String.toList_append,Nat.toList_repr,h,List.take_succ_cons,List.take_zero,
    List.drop_succ_cons,List.drop_zero,hfraction,hsign,String.toList_ofList,exponentText]
  simp

theorem spells_scientific (hx : x.isFinite = true) (hm : x.magnitude ≠ 0) (tie : ShortestTie) :
    x.Spells (scientific (x.shortest tie)
      ((x.shortest tie).exponent + ((Nat.repr (x.shortest tie).digits).length : Int) - 1)).toList := by
  have hread := ofDecimal_shortest hx hm tie
  generalize x.shortest tie = d at hread
  obtain ⟨digits,e⟩ := d
  have hdigits := areDigits_toDigits digits
  obtain ⟨c,cs,hcs⟩ := List.exists_cons_of_ne_nil (@Nat.toDigits_ne_nil digits 10)
  have hvalue := digitsValue_toDigits digits
  rw [hcs] at hdigits hvalue
  have hc : c.isDigit = true := hdigits c (by simp)
  have hlength : ((Nat.repr digits).length : Int) = cs.length + 1 := by
    rw [← String.length_toList,Nat.toList_repr,hcs]
    simp
  have hleading : e + ((Nat.repr digits).length : Int) - 1 = e + cs.length := by omega
  have htext := toList_scientific (e + cs.length) (d := ⟨digits,e⟩) hcs
  dsimp only
  rw [hleading,htext]
  refine ⟨⟨c,by simp,hc⟩,fun rest hrest => ?_⟩
  have hcs' : AreDigits cs := fun b hb => hdigits b (by simp [hb])
  have hshift : e + (cs.length : Int) - cs.length = e := by omega
  have hnumber := readNumber_exponent x.isNegative (isWhole_singleton hc) hcs' (e + cs.length) hrest
  rw [hshift,List.singleton_append,List.singleton_append,hvalue,hread digits e rfl] at hnumber
  simpa using hnumber

/-- A finite double is read back from its text. -/
theorem json_spells (hx : x.isFinite = true) :
    ∃ cs, x.json.toList = x.signText.toList ++ cs ∧ x.Spells cs := by
  unfold json
  rw [if_neg (by simp [hx])]
  by_cases hm : x.magnitude = 0
  · rw [if_pos hm,String.toList_append]
    exact ⟨_,rfl,spells_zero hm⟩
  · rw [if_neg hm]
    dsimp only
    rw [String.toList_append]
    refine ⟨_,rfl,?_⟩
    split
    · exact spells_positional hx hm .toEven
    · exact spells_scientific hx hm .toEven

end Binary64

end IndexTrial
