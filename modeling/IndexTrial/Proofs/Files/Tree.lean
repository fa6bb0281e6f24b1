import IndexTrial.Files.Step

/-!
What the operations on a directory tree leave as it was: a write concerns one path, and directories
are only made where nothing is. A run of steps leaves a path as it was if each of them does.
-/

namespace IndexTrial

/-- What the step writes, makes or takes away is elsewhere. -/
def FileStep.Spares (p : FilePath) : FileStep → Prop
  | .makeDirectories q => p ∉ q.ancestry
  | .create q => p ≠ q
  | .append q _ => p ≠ q
  | .sync _ => True
  | .rename source target => p ≠ source ∧ p ≠ target

namespace FileTree

variable {t u : FileTree} {p q : FilePath} {s : String}

theorem lookup_filter_ne (entries : List (FilePath × Entry)) (h : q ≠ p) :
    (entries.filter (·.1 != p)).lookup q = entries.lookup q := by
  induction entries with
  | nil => rfl
  | cons f entries ih =>
    obtain ⟨r,e⟩ := f
    by_cases hr : r = p
    · have hq : (q == r) = false := beq_eq_false_iff_ne.mpr (hr ▸ h)
      simp [hr,List.lookup_cons,hr ▸ hq,ih]
    · simp [hr,List.lookup_cons,ih]

theorem entryAt?_put_of_ne (t : FileTree) (e : Entry) (h : q ≠ p) :
    (t.put p e).entryAt? q = t.entryAt? q := by
  have hq : (q == p) = false := beq_eq_false_iff_ne.mpr h
  simp [entryAt?,put,List.lookup_append,lookup_filter_ne t.entries h,List.lookup_cons,hq]

theorem entryAt?_remove_of_ne (t : FileTree) (h : q ≠ p) :
    (t.remove p).entryAt? q = t.entryAt? q := by
  simp [entryAt?,remove,lookup_filter_ne t.entries h]

/-- What a write that succeeds says of its path. -/
theorem write?_eq_some (h : t.write? p s = some u) :
    p ≠ [] ∧ p ≠ FilePath.root ∧ u = t.put p (.file s) := by
  unfold write? at h
  split at h
  · simp at h
  · rename_i hbad
    simp only [Bool.or_eq_true,not_or,Bool.not_eq_true] at hbad
    refine ⟨by simpa using hbad.1.1,?_,(Option.some.inj h).symm⟩
    rintro rfl
    simp [isDirectory,entryAt?] at hbad

theorem entryAt?_write? (h : t.write? p s = some u) : u.entryAt? p = some (.file s) := by
  obtain ⟨hne,hroot,rfl⟩ := write?_eq_some h
  exact entryAt?_put t _ hne hroot

theorem entryAt?_write?_of_ne (h : t.write? p s = some u) (hq : q ≠ p) :
    u.entryAt? q = t.entryAt? q := by
  obtain ⟨-,-,rfl⟩ := write?_eq_some h
  exact entryAt?_put_of_ne t _ hq

theorem contents?_write? (h : t.write? p s = some u) : u.contents? p = some s := by
  rw [contents?,entryAt?_write? h]

theorem isDirectory_of_write? (h : t.write? p s = some u) : t.isDirectory p.parent = true := by
  unfold write? at h
  split at h
  · simp at h
  · rename_i hbad
    simp only [Bool.or_eq_true,not_or,Bool.not_eq_true] at hbad
    simpa using hbad.1.2

/-- What was written can be written again. -/
theorem write?_of_write? (h : t.write? p s = some u) (text : String) :
    u.write? p text = some (u.put p (.file text)) := by
  have hentry := entryAt?_write? h
  obtain ⟨hne,-,-⟩ := write?_eq_some h
  have hparent : p.parent ≠ p := by
    intro heq
    have hlength := congrArg List.length heq
    rw [FilePath.parent,List.length_dropLast] at hlength
    have := List.length_pos_iff.mpr hne
    omega
  have hdirectory : u.isDirectory p.parent = true := by
    simpa [isDirectory,entryAt?_write?_of_ne h hparent] using isDirectory_of_write? h
  have hfile : u.isDirectory p = false := by simp [isDirectory,hentry]
  simp [write?,hne,hdirectory,hfile]

/-- Making a directory changes nothing but the paths that lead to it. -/
theorem entryAt?_makeDirectories? (h : t.makeDirectories? p = some u) (hq : q ∉ p.ancestry) :
    u.entryAt? q = t.entryAt? q := by
  unfold makeDirectories? at h
  generalize p.ancestry = ps at h hq
  induction ps generalizing t with
  | nil => rw [Option.some.inj h]
  | cons r ps ih =>
    obtain ⟨hr,hps⟩ := not_or.mp (mt List.mem_cons.mpr hq)
    rw [List.foldlM_cons] at h
    cases hentry : t.entryAt? r with
    | none =>
      rw [hentry] at h
      rw [ih h hps,entryAt?_put_of_ne t _ hr]
    | some e =>
      rw [hentry] at h
      cases e with
      | file s => simp at h
      | directory => exact ih h hps

theorem entryAt?_put_of_free {e : Entry} (h : t.entryAt? p = none) :
    (t.put p e).entryAt? p = some e := by
  apply entryAt?_put
  · rintro rfl
    simp [entryAt?] at h
  · rintro rfl
    simp [entryAt?] at h

/-- Making a directory leaves a path as it was, or makes a directory there. -/
theorem entryAt?_makeDirectories?_or (h : t.makeDirectories? p = some u) (q : FilePath) :
    u.entryAt? q = t.entryAt? q ∨ u.entryAt? q = some .directory := by
  unfold makeDirectories? at h
  generalize p.ancestry = ps at h
  induction ps generalizing t with
  | nil =>
    rw [Option.some.inj h]
    exact .inl rfl
  | cons r ps ih =>
    rw [List.foldlM_cons] at h
    cases hentry : t.entryAt? r with
    | none =>
      rw [hentry] at h
      rcases ih h with hsame | hdirectory
      · by_cases hq : q = r
        · rw [hsame,hq,entryAt?_put_of_free hentry]
          exact .inr rfl
        · rw [hsame,entryAt?_put_of_ne t _ hq]
          exact .inl rfl
      · exact .inr hdirectory
    | some e =>
      rw [hentry] at h
      cases e with
      | file s => simp at h
      | directory => exact ih h

theorem entryAt?_of_contents? (h : t.contents? p = some s) : t.entryAt? p = some (.file s) := by
  unfold contents? at h
  split at h
  · rename_i hentry
    rw [hentry,Option.some.inj h]
  · simp at h

/-- A renamed file is found at its new path as it was. -/
theorem entryAt?_rename? (h : t.rename? p q = some u) (hs : t.contents? p = some s) :
    u.entryAt? q = some (.file s) := by
  unfold rename? at h
  rw [hs] at h
  dsimp only at h
  split at h
  · rename_i heq
    rw [← Option.some.inj h,← heq]
    exact entryAt?_of_contents? hs
  · exact entryAt?_write? h

/-- Steps that all succeed do so one after the other. -/
theorem perform_cons_eq_none {step : FileStep} {steps : List FileStep}
    (h : t.perform (step :: steps) = (u,none)) :
    ∃ v, t.step? step = some v ∧ v.perform steps = (u,none) := by
  cases hstep : t.step? step with
  | none => simp [perform_cons_of_fails steps hstep] at h
  | some v => exact ⟨v,rfl,by rwa [perform_cons_of_step? steps hstep] at h⟩

theorem entryAt?_step? {step : FileStep} (h : t.step? step = some u) (hp : step.Spares p) :
    u.entryAt? p = t.entryAt? p := by
  cases step with
  | makeDirectories q => exact entryAt?_makeDirectories? h hp
  | create q => exact entryAt?_write?_of_ne h hp
  | append q text =>
    obtain ⟨s,-,hwrite⟩ := Option.bind_eq_some_iff.mp h
    exact entryAt?_write?_of_ne hwrite hp
  | sync q =>
    obtain ⟨s,-,rfl⟩ := Option.map_eq_some_iff.mp h
    rfl
  | rename source target =>
    obtain ⟨hsource,htarget⟩ := hp
    change t.rename? source target = some u at h
    unfold rename? at h
    split at h
    · simp at h
    · split at h
      · rw [Option.some.inj h]
      · rw [entryAt?_write?_of_ne h htarget,entryAt?_remove_of_ne t hsource]

/-- Steps that all write elsewhere leave a path as it was, wherever they stop. -/
theorem entryAt?_perform {steps : List FileStep} (hp : ∀ step ∈ steps, step.Spares p) :
    (t.perform steps).1.entryAt? p = t.entryAt? p := by
  induction steps generalizing t with
  | nil => rfl
  | cons step steps ih =>
    obtain ⟨hstep,hsteps⟩ := List.forall_mem_cons.mp hp
    cases h : t.step? step with
    | none => rw [perform_cons_of_fails steps h]
    | some u => rw [perform_cons_of_step? steps h,ih hsteps,entryAt?_step? h hstep]

/-- A run either stops in its first part or goes on with the rest. -/
theorem perform_append (t : FileTree) (first rest : List FileStep) :
    t.perform (first ++ rest) =
      match t.perform first with
      | (u,none) => u.perform rest
      | (u,some step) => (u,some step) := by
  induction first generalizing t with
  | nil => rfl
  | cons step first ih =>
    cases h : t.step? step with
    | none => simp [perform_cons_of_fails _ h]
    | some u => simp [perform_cons_of_step? _ h,ih]

theorem perform_append_eq_none {first rest : List FileStep}
    (h : t.perform (first ++ rest) = (u,none)) :
    ∃ v, t.perform first = (v,none) ∧ v.perform rest = (u,none) := by
  rw [perform_append] at h
  split at h
  · exact ⟨_,‹_›,h⟩
  · simp at h

/-- Appended pieces add up. -/
theorem contents?_perform_append {pieces : List String} (hs : t.contents? q = some s)
    (h : t.perform (pieces.map (.append q)) = (u,none)) :
    u.contents? q = some (s ++ String.join pieces) := by
  induction pieces generalizing t s with
  | nil =>
    obtain rfl : t = u := (Prod.mk.inj h).1
    simpa [String.join] using hs
  | cons piece pieces ih =>
    obtain ⟨v,hwrite,h⟩ := perform_cons_eq_none h
    have happend : t.write? q (s ++ piece) = some v := by simpa [step?,hs] using hwrite
    simpa [String.append_assoc] using ih (contents?_write? happend) h

end FileTree

end IndexTrial
