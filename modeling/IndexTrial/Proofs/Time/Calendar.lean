import IndexTrial.Moment
import Mathlib.Order.Monotone.Basic

/-!
The calendar counts days both ways. Years start in March and are counted within eras of four
hundred years, so that everything about them is settled by the years of one era.
-/

namespace IndexTrial

namespace CivilDate

/-- The year of a day, both within their era. -/
def yearOfEra (d : Int) : Int := (d - d / 1460 + d / 36524 - d / 146096) / 365

/-- The first day of a year, both within their era. -/
def yearStart (y : Int) : Int := 365 * y + y / 4 - y / 100

theorem yearOfEra_succ (d : Nat) : yearOfEra d ≤ yearOfEra (d + 1 : Nat) := by
  have hquarter : ((d + 1 : Nat) : Int) / 36524 / 4 = ((d + 1 : Nat) : Int) / 146096 :=
    Int.ediv_ediv_of_nonneg (by decide)
  unfold yearOfEra
  refine Int.ediv_le_ediv (by decide) ?_
  omega

theorem yearOfEra_mono {d e : Int} (hd : 0 ≤ d) (h : d ≤ e) : yearOfEra d ≤ yearOfEra e := by
  obtain ⟨m,rfl⟩ := Int.eq_ofNat_of_zero_le hd
  obtain ⟨n,rfl⟩ := Int.eq_ofNat_of_zero_le (hd.trans h)
  exact monotone_nat_of_le_succ yearOfEra_succ (by omega : m ≤ n)

/-- The days of a year within its era. -/
def yearLength (y : Int) : Int := if isLeap (y + 1) then 366 else 365

/-- A year is told from its first day and from its last one. -/
theorem yearOfEra_ends : ∀ y < 400, yearOfEra (yearStart (y : Nat)) = y ∧
    yearOfEra (yearStart y + yearLength y - 1) = y := by
  decide +kernel

theorem yearStart_succ : ∀ y < 399,
    yearStart (y + 1 : Nat) = yearStart (y : Nat) + yearLength (y : Nat) := by
  decide +kernel

theorem yearOfEra_bounds {d : Int} (hd : 0 ≤ d) (hd' : d < 146097) :
    0 ≤ yearOfEra d ∧ yearOfEra d < 400 ∧ yearStart (yearOfEra d) ≤ d ∧
      d < yearStart (yearOfEra d) + yearLength (yearOfEra d) := by
  have hlow : 0 ≤ yearOfEra d := yearOfEra_mono le_rfl hd
  have hhigh : yearOfEra d ≤ 399 := yearOfEra_mono (e := 146096) hd (by omega)
  obtain ⟨y,hy⟩ := Int.eq_ofNat_of_zero_le hlow
  rw [hy] at hhigh ⊢
  refine ⟨Int.natCast_nonneg y,by omega,?_,?_⟩
  · cases y with
    | zero => exact hd
    | succ y =>
      -- an earlier day belongs to an earlier year
      by_contra h
      have hlast := (yearOfEra_ends y (by omega)).2
      have hnext := yearStart_succ y (by omega)
      have hmono := yearOfEra_mono hd (by omega : d ≤ yearStart y + yearLength y - 1)
      omega
  · rcases Nat.lt_or_ge y 399 with hlt | hge
    · by_contra h
      have hfirst := (yearOfEra_ends (y + 1) (by omega)).1
      have hnext := yearStart_succ y hlt
      have hmono := yearOfEra_mono (d := yearStart (y + 1 : Nat)) (e := d) (by
        have hpos : ∀ y < 400, 0 ≤ yearStart (y + 1 : Nat) := by decide +kernel
        exact hpos y (by omega)) (by omega)
      omega
    · obtain rfl : y = 399 := by omega
      have hlast : yearStart (399 : Nat) + yearLength (399 : Nat) = 146097 := by decide +kernel
      omega

/-- The date of an era, a year within it and a day within the year. -/
def ofParts (era y doy : Int) : CivilDate :=
  let shifted := (5 * doy + 2) / 153
  let month := if shifted < 10 then shifted + 3 else shifted - 9
  ⟨y + era * 400 + (if month ≤ 2 then 1 else 0),month.toNat,
    (doy - (153 * shifted + 2) / 5 + 1).toNat⟩

theorem ofDays_eq_ofParts (n : Int) : ∃ era y doy, 0 ≤ y ∧ y < 400 ∧ 0 ≤ doy ∧
    doy < yearLength y ∧ n + 719468 = era * 146097 + yearStart y + doy ∧
    ofDays n = ofParts era y doy := by
  have hera : (n + 719468).fdiv 146097 = (n + 719468) / 146097 :=
    Int.fdiv_eq_ediv_of_nonneg _ (by decide)
  obtain ⟨d,hd⟩ : ∃ d, n + 719468 - (n + 719468).fdiv 146097 * 146097 = d := ⟨_,rfl⟩
  obtain ⟨hy,hy',hstart,hend⟩ := yearOfEra_bounds (d := d) (by omega) (by omega)
  refine ⟨(n + 719468).fdiv 146097,yearOfEra d,d - yearStart (yearOfEra d),hy,hy',by omega,by omega,
    by omega,?_⟩
  subst hd
  rfl

section

variable (era : Int) {y doy : Int} (hy : 0 ≤ y) (hy' : y < 400) (hdoy : 0 ≤ doy)
  (hdoy' : doy < yearLength y)
include hdoy hdoy'

/-- The months from March to December belong to the year itself, January and February to the next. -/
theorem ofParts_eq : ∃ shifted : Int, ∃ month day : Nat, (5 * doy + 2) / 153 = shifted ∧
    0 ≤ shifted ∧ shifted < 12 ∧ (day : Int) = doy - (153 * shifted + 2) / 5 + 1 ∧
    (shifted < 10 ∧ (month : Int) = shifted + 3 ∧ ofParts era y doy = ⟨y + era * 400,month,day⟩ ∨
      10 ≤ shifted ∧ (month : Int) = shifted - 9 ∧
        ofParts era y doy = ⟨y + era * 400 + 1,month,day⟩) := by
  have hlength : yearLength y ≤ 366 := by
    unfold yearLength
    split <;> omega
  obtain ⟨shifted,hshifted⟩ : ∃ s, (5 * doy + 2) / 153 = s := ⟨_,rfl⟩
  refine ⟨shifted,(if shifted < 10 then shifted + 3 else shifted - 9).toNat,
    (doy - (153 * shifted + 2) / 5 + 1).toNat,hshifted,by omega,by omega,by omega,?_⟩
  unfold ofParts
  dsimp only
  rw [hshifted]
  by_cases hspring : shifted < 10
  · have hmonth : ¬ shifted + 3 ≤ 2 := by omega
    refine .inl ⟨hspring,?_⟩
    simp only [hspring,if_true,hmonth,if_false,Int.add_zero,and_true]
    omega
  · have hmonth : shifted - 9 ≤ 2 := by omega
    refine .inr ⟨by omega,?_⟩
    simp only [hspring,if_false,hmonth,if_true,and_true]
    omega

include hy hy' in
theorem toDays_ofParts :
    (ofParts era y doy).toDays = era * 146097 + yearStart y + doy - 719468 := by
  have hera : (y + era * 400).fdiv 400 = era := by
    rw [Int.fdiv_eq_ediv_of_nonneg _ (by decide)]
    omega
  obtain ⟨shifted,month,day,-,hlow,hhigh,hday,⟨hspring,hmonth,heq⟩ | ⟨hwinter,hmonth,heq⟩⟩ :=
    ofParts_eq era hdoy hdoy'
  · have hlate : ¬ month ≤ 2 := by omega
    rw [heq]
    simp only [toDays,hlate,if_false,hera,yearStart]
    omega
  · have hearly : month ≤ 2 := by omega
    rw [heq]
    simp only [toDays,hearly,if_true,Int.add_sub_cancel,hera,yearStart]
    omega

theorem isValid_ofParts (hrange : yearInRange (ofParts era y doy).year = true) :
    (ofParts era y doy).isValid = true := by
  have hleap : isLeap (y + era * 400 + 1) = isLeap (y + 1) := by
    have h4 : (y + era * 400 + 1) % 4 = (y + 1) % 4 := by omega
    have h100 : (y + era * 400 + 1) % 100 = (y + 1) % 100 := by omega
    have h400 : (y + era * 400 + 1) % 400 = (y + 1) % 400 := by omega
    simp only [isLeap,h4,h100,h400]
  obtain ⟨shifted,month,day,hshifted,hlow,hhigh,hday,⟨hspring,hmonth,heq⟩ | ⟨hwinter,hmonth,heq⟩⟩ :=
    ofParts_eq era hdoy hdoy'
  · have hlength : ∀ year, day ≤ monthLength year month := by
      intro year
      have hthirty : 3 ≤ month := by omega
      unfold monthLength
      split <;> omega
    rw [heq] at hrange ⊢
    simp only [isValid,hrange,hlength,Bool.and_eq_true,decide_eq_true_eq,true_and,and_true]
    omega
  · have hlength : day ≤ monthLength (y + era * 400 + 1) month := by
      unfold yearLength at hdoy'
      rw [← hleap] at hdoy'
      unfold monthLength
      split
      · split at hdoy' <;> simp_all <;> omega
      · omega
      · omega
      · omega
      · omega
      · omega
    rw [heq] at hrange ⊢
    simp only [isValid,hrange,hlength,Bool.and_eq_true,decide_eq_true_eq,true_and,and_true]
    omega

end

theorem toDays_ofDays (n : Int) : (ofDays n).toDays = n := by
  obtain ⟨era,y,doy,hy,hy',hdoy,hdoy',hn,heq⟩ := ofDays_eq_ofParts n
  rw [heq,toDays_ofParts era hy hy' hdoy hdoy']
  omega

theorem isValid_ofDays {n : Int} (h : yearInRange (ofDays n).year = true) :
    (ofDays n).isValid = true := by
  obtain ⟨era,y,doy,hy,hy',hdoy,hdoy',-,heq⟩ := ofDays_eq_ofParts n
  rw [heq] at h ⊢
  exact isValid_ofParts era hdoy hdoy' h

end CivilDate

end IndexTrial
