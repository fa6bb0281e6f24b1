import IndexTrial.Proofs.Text.Digits
import IndexTrial.Proofs.Text.Trimming
import IndexTrial.Server.MemorySetting
import Mathlib.Data.List.Basic

/-!
Which texts are memory settings, and what they come to. A setting is a number and a unit with white
space around either; it is read as their exact product, and not at all if that is no 64-bit word.
-/

namespace IndexTrial

/-- What the number of a setting counts. -/
inductive MemoryUnit
  /-- No unit is written. -/
  | block
  | byte
  | kilobyte
  | megabyte
  | gigabyte
  | terabyte
  deriving DecidableEq, Repr

namespace MemoryUnit

def text : MemoryUnit → String
  | block => ""
  | byte => "B"
  | kilobyte => "kB"
  | megabyte => "MB"
  | gigabyte => "GB"
  | terabyte => "TB"

def bytes : MemoryUnit → Nat
  | block => 8192
  | byte => 1
  | kilobyte => 1024
  | megabyte => 1024 ^ 2
  | gigabyte => 1024 ^ 3
  | terabyte => 1024 ^ 4

theorem lookup_text (u : MemoryUnit) : memoryUnits.lookup u.text = some u.bytes := by
  cases u <;> decide

theorem lookup_eq_some_iff {name : String} {n : Nat} :
    memoryUnits.lookup name = some n ↔ ∃ u : MemoryUnit, u.text = name ∧ u.bytes = n := by
  constructor
  · intro h
    obtain ⟨before,after,hlist,-⟩ := List.lookup_eq_some_iff.mp h
    have hmem : (name,n) ∈ memoryUnits := by simp [hlist]
    simp only [memoryUnits,List.mem_cons,Prod.mk.injEq,List.not_mem_nil,or_false] at hmem
    rcases hmem with ⟨rfl,rfl⟩ | ⟨rfl,rfl⟩ | ⟨rfl,rfl⟩ | ⟨rfl,rfl⟩ | ⟨rfl,rfl⟩ | ⟨rfl,rfl⟩
    · exact ⟨block,rfl,rfl⟩
    · exact ⟨byte,rfl,rfl⟩
    · exact ⟨kilobyte,rfl,rfl⟩
    · exact ⟨megabyte,rfl,rfl⟩
    · exact ⟨gigabyte,rfl,rfl⟩
    · exact ⟨terabyte,rfl,rfl⟩
  · rintro ⟨u,rfl,rfl⟩
    exact u.lookup_text

theorem solid_text (u : MemoryUnit) : ∀ c ∈ u.text.toList, isBlank c = false := by
  have hall : u.text.toList.all (fun c => !isBlank c) = true := by cases u <;> decide
  simpa using hall

theorem not_digit_text (u : MemoryUnit) : ∀ c ∈ u.text.toList, c.isDigit = false := by
  have hall : u.text.toList.all (fun c => !c.isDigit) = true := by cases u <;> decide
  simpa using hall

end MemoryUnit

variable {text : String} {digits rest : List Char} {u : MemoryUnit} {v : Nat}

/-- The text is a number and a unit: white space, digits, white space, the unit, white space. -/
def SpellsMemory (text : String) (digits : List Char) (u : MemoryUnit) : Prop :=
  ∃ front gap back, AreBlanks front ∧ AreBlanks gap ∧ AreBlanks back ∧ AreDigits digits ∧
    digits ≠ [] ∧ text.toList = front ++ (digits ++ (gap ++ u.text.toList)) ++ back

/-- What the reader sees: the text without the white space around it, cut behind its digits. -/
structure CutsInto (text : String) (digits rest : List Char) : Prop where
  core : trimBlanks text.toList = digits ++ rest
  digits : AreDigits digits
  rest : NoDigitNext rest

theorem exists_cutsInto (text : String) : ∃ digits rest, CutsInto text digits rest := by
  refine ⟨_,_,(spanDigits_append (trimBlanks text.toList)).symm,fun c hc => ?_,fun c hc => ?_⟩
  · exact List.all_eq_true.mp List.all_takeWhile c hc
  · have h := List.head?_dropWhile_not Char.isDigit (trimBlanks text.toList)
    rw [spanDigits] at hc
    simp_all

theorem CutsInto.readMemorySetting? (h : CutsInto text digits rest) :
    readMemorySetting? text = if digits = [] then none else
      (memoryUnits.lookup (String.ofList (trimBlanks rest))).bind fun bytes =>
        if digitsValue digits * bytes < 2 ^ 64 then some (digitsValue digits * bytes) else none := by
  simp only [IndexTrial.readMemorySetting?,h.core,spanDigits_eq h.digits h.rest,trimmed,
    String.toList_ofList,List.isEmpty_iff]

theorem noDigitNext_append {gap cs : List Char} (hgap : AreBlanks gap)
    (hcs : ∀ c ∈ cs, c.isDigit = false) : NoDigitNext (gap ++ cs) := by
  cases gap with
  | nil => exact fun c hc => hcs c (List.mem_of_mem_head? hc)
  | cons b gap =>
    refine noDigitNext_cons (Bool.eq_false_iff.mpr fun hdigit => ?_) _
    have hblank := hgap b List.mem_cons_self
    rw [isBlank_of_isDigit hdigit] at hblank
    cases hblank

/-- The blanks behind a number are trimmed off if no unit follows. -/
theorem trimBlanks_spelled {gap : List Char} (hgap : AreBlanks gap) (hdigits : AreDigits digits)
    (hne : digits ≠ []) (u : MemoryUnit) : ∃ rest, NoDigitNext rest ∧
      trimBlanks rest = u.text.toList ∧
      trimBlanks (digits ++ (gap ++ u.text.toList)) = digits ++ rest := by
  have hunit := u.solid_text
  by_cases hnone : u.text.toList = []
  · refine ⟨[],noDigitNext_nil,by rw [hnone]; rfl,?_⟩
    rw [hnone,List.append_nil,trimBlanks_append hgap,List.append_nil]
    exact trimBlanks_of_solid fun c hc => isBlank_of_isDigit (hdigits c hc)
  · have hunitOnly := trimBlanks_around hgap areBlanks_nil u.text.toList
    rw [List.append_nil,trimBlanks_of_solid hunit] at hunitOnly
    refine ⟨gap ++ u.text.toList,noDigitNext_append hgap u.not_digit_text,hunitOnly,
      trimBlanks_of_ends (fun c hc => ?_) fun c hc => ?_⟩
    · rw [List.head?_append_of_ne_nil _ hne] at hc
      exact isBlank_of_isDigit (hdigits c (List.mem_of_mem_head? hc))
    · rw [← List.append_assoc,List.getLast?_append_of_ne_nil _ hnone] at hc
      exact hunit c (List.mem_of_mem_getLast? hc)

theorem SpellsMemory.cutsInto (h : SpellsMemory text digits u) :
    ∃ rest, CutsInto text digits rest ∧ trimBlanks rest = u.text.toList := by
  obtain ⟨front,gap,back,hfront,hgap,hback,hdigits,hne,htext⟩ := h
  obtain ⟨rest,hrest,hunit,hcore⟩ := trimBlanks_spelled hgap hdigits hne u
  refine ⟨rest,⟨?_,hdigits,hrest⟩,hunit⟩
  rw [htext,trimBlanks_around hfront hback,hcore]

theorem CutsInto.spellsMemory (h : CutsInto text digits rest) (hne : digits ≠ [])
    (hunit : trimBlanks rest = u.text.toList) : SpellsMemory text digits u := by
  obtain ⟨front,back,hfront,hback,htext⟩ := eq_trimBlanks text.toList
  obtain ⟨gap,back',hgap,hback',hrest⟩ := eq_trimBlanks rest
  refine ⟨front,gap,back' ++ back,hfront,hgap,hback'.append hback,h.digits,hne,?_⟩
  rw [hunit] at hrest
  rw [htext,h.core,hrest]
  simp

theorem SpellsMemory.readMemorySetting? (h : SpellsMemory text digits u) :
    readMemorySetting? text =
      if digitsValue digits * u.bytes < 2 ^ 64 then some (digitsValue digits * u.bytes)
      else none := by
  obtain ⟨rest,hcut,hunit⟩ := h.cutsInto
  obtain ⟨_,_,_,_,_,_,_,hne,_⟩ := h
  rw [hcut.readMemorySetting?,if_neg hne,hunit,String.ofList_toList,u.lookup_text,
    Option.bind_some]

theorem exists_spellsMemory (h : readMemorySetting? text = some v) :
    ∃ digits u, SpellsMemory text digits u := by
  obtain ⟨digits,rest,hcut⟩ := exists_cutsInto text
  rw [hcut.readMemorySetting?] at h
  by_cases hne : digits = []
  · simp [hne] at h
  · rw [if_neg hne] at h
    obtain ⟨n,hn,-⟩ := Option.bind_eq_some_iff.mp h
    obtain ⟨u,hu,-⟩ := MemoryUnit.lookup_eq_some_iff.mp hn
    exact ⟨digits,u,hcut.spellsMemory hne (by rw [hu,String.toList_ofList])⟩

/-- A number that is written out and a unit behind it. -/
theorem spellsMemory_append (n : Nat) (u : MemoryUnit) :
    SpellsMemory (toString n ++ u.text) (Nat.toDigits 10 n) u :=
  ⟨[],[],[],areBlanks_nil,areBlanks_nil,areBlanks_nil,areDigits_toDigits n,Nat.toDigits_ne_nil,by simp⟩

/-- A text is read exactly if it is a number and a unit and their product is a 64-bit word, and then
as this product; so a number that is written out with a unit comes back as their product or, if that
is too large, not at all. -/
theorem readMemorySetting?_exact :
    (∀ (text : String) (v : Nat), readMemorySetting? text = some v ↔
      ∃ digits u, SpellsMemory text digits u ∧ digitsValue digits * u.bytes < 2 ^ 64 ∧
        v = digitsValue digits * u.bytes) ∧
    ∀ (n : Nat) (u : MemoryUnit), readMemorySetting? (toString n ++ u.text) =
      if n * u.bytes < 2 ^ 64 then some (n * u.bytes) else none := by
  refine ⟨fun text v => ⟨fun h => ?_,?_⟩,fun n u => ?_⟩
  · obtain ⟨digits,u,hspells⟩ := exists_spellsMemory h
    rw [hspells.readMemorySetting?] at h
    by_cases hword : digitsValue digits * u.bytes < 2 ^ 64
    · rw [if_pos hword] at h
      exact ⟨digits,u,hspells,hword,(Option.some.inj h).symm⟩
    · simp [hword] at h
  · rintro ⟨digits,u,hspells,hword,rfl⟩
    rw [hspells.readMemorySetting?,if_pos hword]
  · have h := (spellsMemory_append n u).readMemorySetting?
    rwa [digitsValue_toDigits] at h

/-- The largest word is a number of bytes, but not of anything larger. -/
example : readMemorySetting? "\u00a018446744073709551615 B\n" = some (2 ^ 64 - 1) ∧
    readMemorySetting? "18446744073709551615" = none ∧ readMemorySetting? "+1B" = none := by
  decide +kernel

end IndexTrial
