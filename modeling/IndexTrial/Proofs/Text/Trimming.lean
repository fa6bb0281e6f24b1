import IndexTrial.Text.Blank

/-!
Texts and the white space around them. What is trimmed off stands around what is left, and white
space that is put around a text is trimmed off again.
-/

namespace IndexTrial

theorem dropWhile_append_of_head {p : Char → Bool} {as : List Char}
    (h : as.head?.any (!p ·) = true) (bs : List Char) : (as ++ bs).dropWhile p = as ++ bs := by
  cases as with
  | nil => simp at h
  | cons a as => simp_all

theorem dropWhile_before {p : Char → Bool} {bs : List Char} (h : bs.head?.any (!p ·) = true)
    (as : List Char) : (as ++ bs).dropWhile p = as.dropWhile p ++ bs := by
  have hbs : bs.dropWhile p = bs := by simpa using dropWhile_append_of_head h []
  rw [List.dropWhile_append,hbs]
  split
  · rename_i hempty
    rw [List.isEmpty_iff.mp hempty,List.nil_append]
  · rfl

def AreBlanks (cs : List Char) : Prop := ∀ c ∈ cs, isBlank c = true

theorem areBlanks_nil : AreBlanks [] := fun _ hc => absurd hc List.not_mem_nil

theorem AreBlanks.append {a b : List Char} (ha : AreBlanks a) (hb : AreBlanks b) :
    AreBlanks (a ++ b) := fun c hc => (List.mem_append.mp hc).elim (ha c) (hb c)

theorem AreBlanks.reverse {cs : List Char} (h : AreBlanks cs) : AreBlanks cs.reverse :=
  fun c hc => h c (List.mem_reverse.mp hc)

theorem areBlanks_takeWhile (cs : List Char) : AreBlanks (cs.takeWhile isBlank) :=
  fun c hc => List.all_eq_true.mp List.all_takeWhile c hc

theorem eq_trimBlanks (cs : List Char) : ∃ front back, AreBlanks front ∧ AreBlanks back ∧
    cs = front ++ trimBlanks cs ++ back := by
  have hstart := List.takeWhile_append_dropWhile (p := isBlank) (l := cs)
  have hend : trimBlanks cs ++ ((cs.dropWhile isBlank).reverse.takeWhile isBlank).reverse =
      cs.dropWhile isBlank := by
    rw [trimBlanks,trimBlankStart,trimBlankStart,← List.reverse_append,
      List.takeWhile_append_dropWhile,List.reverse_reverse]
  refine ⟨cs.takeWhile isBlank,((cs.dropWhile isBlank).reverse.takeWhile isBlank).reverse,
    areBlanks_takeWhile cs,(areBlanks_takeWhile _).reverse,?_⟩
  rw [List.append_assoc,hend,hstart]

theorem toList_eq_trimmed (text : String) : ∃ front back, AreBlanks front ∧ AreBlanks back ∧
    text.toList = front ++ (trimmed text).toList ++ back := by
  rw [trimmed,String.toList_ofList]
  exact eq_trimBlanks text.toList

theorem trimBlankStart_append {front : List Char} (h : AreBlanks front) (cs : List Char) :
    trimBlankStart (front ++ cs) = trimBlankStart cs :=
  List.dropWhile_append_of_pos h

theorem trimBlanks_append {back : List Char} (h : AreBlanks back) (cs : List Char) :
    trimBlanks (cs ++ back) = trimBlanks cs := by
  have hback : back.dropWhile isBlank = [] := by
    simpa [trimBlankStart] using trimBlankStart_append h []
  have hstart : trimBlankStart (cs ++ back) = trimBlankStart cs ++ back ∨
      trimBlankStart (cs ++ back) = [] ∧ trimBlankStart cs = [] := by
    simp only [trimBlankStart,List.dropWhile_append,hback]
    by_cases hcs : cs.dropWhile isBlank = [] <;> simp [hcs]
  rcases hstart with hstart | ⟨hstart,hcs⟩
  · rw [trimBlanks,trimBlanks,hstart,List.reverse_append,trimBlankStart_append h.reverse]
  · rw [trimBlanks,trimBlanks,hstart,hcs]

theorem trimBlanks_around {front back : List Char} (hfront : AreBlanks front)
    (hback : AreBlanks back) (cs : List Char) :
    trimBlanks (front ++ cs ++ back) = trimBlanks cs := by
  rw [trimBlanks_append hback,trimBlanks,trimBlanks,trimBlankStart_append hfront]

/-- What has something solid at either end is not trimmed. -/
theorem trimBlanks_of_ends {cs : List Char} (hhead : ∀ c ∈ cs.head?, isBlank c = false)
    (hlast : ∀ c ∈ cs.getLast?, isBlank c = false) : trimBlanks cs = cs := by
  have hdrop : ∀ ds : List Char, (∀ d ∈ ds.head?, isBlank d = false) → ds.dropWhile isBlank = ds := by
    intro ds hds
    cases ds with
    | nil => rfl
    | cons d ds => simp [hds d (by simp)]
  have hreverse : ∀ c ∈ cs.reverse.head?, isBlank c = false := by simpa using hlast
  rw [trimBlanks,trimBlankStart,trimBlankStart,hdrop cs hhead,hdrop _ hreverse,List.reverse_reverse]

theorem trimBlanks_of_solid {cs : List Char} (h : ∀ c ∈ cs, isBlank c = false) :
    trimBlanks cs = cs :=
  trimBlanks_of_ends (fun c hc => h c (List.mem_of_mem_head? hc))
    (fun c hc => h c (List.mem_of_mem_getLast? hc))

end IndexTrial
