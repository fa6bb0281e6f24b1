import IndexTrial.Text.Search
import Mathlib.Data.List.Basic

/-!
Occurrences of one text in another: what it means that a text starts with a lead or holds a pattern,
and what a replacement leaves as it is.
-/

namespace IndexTrial

theorem startsWithText_iff {text lead : String} :
    startsWithText text lead = true ↔ ∃ rest, text = lead ++ rest := by
  rw [startsWithText,List.isPrefixOf_iff_prefix]
  constructor
  · rintro ⟨cs,hcs⟩
    exact ⟨String.ofList cs,by rw [← String.toList_inj,String.toList_append,String.toList_ofList,hcs]⟩
  · rintro ⟨rest,rfl⟩
    exact ⟨rest.toList,String.toList_append.symm⟩

theorem afterLead?_eq_some_iff {lead text rest : String} :
    afterLead? lead text = some rest ↔ text = lead ++ rest := by
  simp only [afterLead?,Option.map_eq_some_iff,List.isPrefixOf?_eq_some_iff_append_eq]
  constructor
  · rintro ⟨cs,hcs,rfl⟩
    rw [← String.toList_inj,String.toList_append,String.toList_ofList,hcs]
  · rintro rfl
    exact ⟨rest.toList,by simp⟩

theorem occursIn_iff {pattern cs : List Char} : occursIn pattern cs = true ↔ pattern <:+: cs := by
  induction cs with
  | nil => simp [occursIn]
  | cons c cs ih => rw [occursIn,Bool.or_eq_true,List.isPrefixOf_iff_prefix,ih,List.infix_cons_iff]

theorem hasText_iff {text pattern : String} :
    hasText text pattern = true ↔ pattern.toList <:+: text.toList := occursIn_iff

theorem hasText_around (before pattern after : String) :
    hasText (before ++ pattern ++ after) pattern = true := by
  rw [hasText_iff,String.toList_append,String.toList_append]
  exact List.infix_append _ _ _

theorem replaceFrom_append {pattern replacement lead : List Char}
    (h : ∀ c ∈ lead, pattern.head? ≠ some c) (rest : List Char) :
    replaceFrom pattern replacement 0 (lead ++ rest) =
      lead ++ replaceFrom pattern replacement 0 rest := by
  induction lead with
  | nil => rfl
  | cons c cs ih =>
    obtain ⟨hc,hcs⟩ := List.forall_mem_cons.mp h
    have hstart : (!pattern.isEmpty && pattern.isPrefixOf (c :: (cs ++ rest))) = false := by
      cases pattern with
      | nil => rfl
      | cons p ps =>
        have hp : p ≠ c := by simpa using hc
        simp [List.isPrefixOf,hp]
    simp [replaceFrom,hstart,ih hcs]

theorem replaceFrom_skip (pattern replacement : List Char) (passed rest : List Char) :
    replaceFrom pattern replacement passed.length (passed ++ rest) =
      replaceFrom pattern replacement 0 rest := by
  induction passed with
  | nil => rfl
  | cons c cs ih => simpa [replaceFrom] using ih

theorem replaceFrom_pattern (p : Char) (ps replacement rest : List Char) :
    replaceFrom (p :: ps) replacement 0 (p :: ps ++ rest) =
      replacement ++ replaceFrom (p :: ps) replacement 0 rest := by
  have hstart : (!(p :: ps).isEmpty && (p :: ps).isPrefixOf (p :: (ps ++ rest))) = true := by
    simp [List.isPrefixOf]
  rw [List.cons_append,replaceFrom,if_pos hstart,List.length_cons,Nat.add_sub_cancel,
    replaceFrom_skip]

end IndexTrial
