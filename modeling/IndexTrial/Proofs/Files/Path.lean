import IndexTrial.Files.Tree

/-! Names with extensions, and the directories above a path. -/

namespace IndexTrial

namespace FilePath

theorem takeWhile_append_dot {cs : List Char} (h : (cs.dropWhile (· ≠ '.')).drop 1 ≠ []) :
    cs.takeWhile (· ≠ '.') ++ '.' :: (cs.dropWhile (· ≠ '.')).drop 1 = cs := by
  induction cs with
  | nil => simp at h
  | cons c cs ih =>
    by_cases hc : c = '.'
    · simp [hc]
    · simpa [hc] using ih (by simpa [hc] using h)

/-- A name with an extension is its stem, a dot and the extension. -/
theorem eq_of_splitName {name stem extension : String}
    (h : splitName name = (stem,some extension)) : name = stem ++ "." ++ extension := by
  unfold splitName at h
  dsimp only at h
  split at h
  · simp at h
  · rename_i hstem
    simp only [Prod.mk.injEq,Option.some.injEq] at h
    obtain ⟨rfl,rfl⟩ := h
    have hname := takeWhile_append_dot (mt List.isEmpty_iff.mpr hstem)
    apply String.toList_injective
    simpa using (congrArg List.reverse hname).symm

theorem fst_splitName_of_none (name : String) (h : (splitName name).2 = none) :
    (splitName name).1 = name := by
  unfold splitName at h ⊢
  dsimp only at h ⊢
  split at h
  · rename_i hstem
    rw [if_pos hstem]
  · simp at h

/-- Only a name that has the extension already is left as it is. -/
theorem withExtension_eq_self_iff {e name : String} (he : e ≠ "") :
    withExtension e name = name ↔ extension name = e := by
  unfold withExtension extension
  rcases hsplit : splitName name with ⟨stem,_ | found⟩
  · have hstem : stem = name := by simpa [hsplit] using fst_splitName_of_none name
    simp [hstem,String.append_assoc,he.symm]
  · have hname := eq_of_splitName hsplit
    simp [hname,String.append_assoc,eq_comm]

theorem mapName_append (f : String → String) (directory : FilePath) (name : String) :
    mapName f (directory ++ [name]) = directory ++ [f name] := by
  induction directory with
  | nil => rfl
  | cons first rest ih =>
    cases rest with
    | nil => rfl
    | cons second rest => simpa [mapName] using ih

theorem length_le_of_mem_ancestry {p q : FilePath} (h : q ∈ p.ancestry) : q.length ≤ p.length := by
  obtain ⟨i,hi,rfl⟩ := List.mem_map.mp h
  exact List.length_take_le' _ _

/-! ### The last name of a written path -/

theorem getLast?_splitAtChar {separator c : Char} (h : c ≠ separator) (cs : List Char) :
    ∃ part, (splitAtChar separator (cs ++ [c])).getLast? = some (part ++ [c]) := by
  induction cs with
  | nil => exact ⟨[],by simp [splitAtChar,h]⟩
  | cons d cs ih =>
    obtain ⟨part,hpart⟩ := ih
    rw [List.cons_append,splitAtChar]
    rcases hsplit : splitAtChar separator (cs ++ [c]) with _ | ⟨first,_ | ⟨second,rest⟩⟩
    · simp [hsplit] at hpart
    · obtain rfl : first = part ++ [c] := by simpa [hsplit] using hpart
      by_cases hd : d = separator
      · exact ⟨part,by simp [hd]⟩
      · exact ⟨d :: part,by simp [hd]⟩
    · have hlast : (second :: rest).getLast? = some (part ++ [c]) := by
        simpa [hsplit] using hpart
      by_cases hd : d = separator
      · exact ⟨part,by simpa [hd] using hlast⟩
      · exact ⟨part,by simpa [hd] using hlast⟩

/-- A written path ends in a name with the same last character, unless that is part of no name. -/
theorem getLast?_read {text : String} {c : Char} (htext : text.toList.getLast? = some c)
    (hslash : c ≠ '/') (hdot : c ≠ '.') :
    ∃ name, (read text).getLast? = some name ∧ name.toList.getLast? = some c := by
  obtain ⟨cs,hcs⟩ := List.getLast?_eq_some_iff.mp htext
  obtain ⟨part,hpart⟩ := getLast?_splitAtChar hslash cs
  obtain ⟨parts,hparts⟩ := List.getLast?_eq_some_iff.mp hpart
  have hsplit : splitText '/' text = parts.map String.ofList ++ [String.ofList (part ++ [c])] := by
    rw [splitText,hcs,hparts,List.map_append,List.map_singleton]
  have hlast : (String.ofList (part ++ [c])).toList.getLast? = some c := by simp
  generalize String.ofList (part ++ [c]) = name at hsplit hlast
  have hempty : name ≠ "" := by
    rintro rfl
    simp at hlast
  have hcurrent : name ≠ "." := by
    rintro rfl
    exact hdot (Option.some.inj hlast).symm
  refine ⟨name,?_,hlast⟩
  rw [read,hsplit]
  split <;> simp [hempty,hcurrent]

/-- Paths that are written with different last characters are different. -/
theorem read_ne {text other : String} {c d : Char} (htext : text.toList.getLast? = some c)
    (hother : other.toList.getLast? = some d) (hne : c ≠ d) (hc : c ≠ '/' ∧ c ≠ '.')
    (hd : d ≠ '/' ∧ d ≠ '.') : read text ≠ read other := by
  intro h
  obtain ⟨name,hname,hlast⟩ := getLast?_read htext hc.1 hc.2
  obtain ⟨name',hname',hlast'⟩ := getLast?_read hother hd.1 hd.2
  rw [h,hname'] at hname
  rw [Option.some.inj hname,hlast] at hlast'
  exact hne (Option.some.inj hlast')

end FilePath

end IndexTrial
