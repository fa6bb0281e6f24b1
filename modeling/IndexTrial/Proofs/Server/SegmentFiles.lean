import IndexTrial.Proofs.Text.Digits
import IndexTrial.Proofs.Text.Search
import IndexTrial.Server.Client
import Mathlib.Data.List.Nodup
import Mathlib.Data.String.Basic

/-!
Which files a relation has among those of its directory. They are found by their names alone: the
file that the server tells and the segments numbered after it, in ascending order and each once. A
name that ends with the dot before its number counts as a segment as well.
-/

namespace IndexTrial

/-- The name is the stem with a dot and a number behind it. -/
def IsNumbered (stem name : String) : Prop :=
  ∃ digits, digits ≠ "" ∧ AreDigits digits.toList ∧ name = stem ++ "." ++ digits

theorem isSegmentOf_iff {stem name : String} : isSegmentOf stem name = true ↔
    name = stem ∨ IsNumbered stem name ∨ name = stem ++ "." := by
  simp only [isSegmentOf,Bool.or_eq_true,beq_iff_eq,Option.any_eq_true,afterLead?_eq_some_iff,
    List.all_eq_true]
  refine or_congr_right ⟨?_,?_⟩
  · rintro ⟨digits,rfl,hdigits⟩
    by_cases hempty : digits = ""
    · exact .inr (by rw [hempty,String.append_empty])
    · exact .inl ⟨digits,hempty,hdigits,rfl⟩
  · rintro (⟨digits,-,hdigits,rfl⟩ | rfl)
    · exact ⟨digits,rfl,hdigits⟩
    · exact ⟨"",by simp,by simp⟩

theorem not_isNumbered_dot (stem : String) : ¬IsNumbered stem (stem ++ ".") := by
  rintro ⟨digits,hempty,-,hname⟩
  have hlength := congrArg String.length hname
  simp only [String.length_append] at hlength
  exact hempty (String.length_eq_zero_iff.mp (by omega))

theorem append_lt_append_iff (lead a b : List Char) : lead ++ a < lead ++ b ↔ a < b := by
  induction lead with
  | nil => rfl
  | cons c lead ih => simp [ih]

/-- A path in a directory is the name behind a lead that all of them have. -/
theorem exists_lead (directory : String) : ∃ lead, ∀ name, joinPath directory name = lead ++ name := by
  by_cases h : (directory.isEmpty || directory.endsWith "/") = true
  · exact ⟨directory,fun name => if_pos h⟩
  · exact ⟨directory ++ "/",fun name => if_neg h⟩

theorem joinPath_lt_iff {directory a b : String} :
    joinPath directory a < joinPath directory b ↔ a < b := by
  obtain ⟨lead,hlead⟩ := exists_lead directory
  simp only [hlead,String.lt_iff_toList_lt,String.toList_append,append_lt_append_iff]

theorem joinPath_inj {directory a b : String} :
    joinPath directory a = joinPath directory b ↔ a = b := by
  obtain ⟨lead,hlead⟩ := exists_lead directory
  simp only [hlead,← String.toList_inj,String.toList_append,List.append_cancel_left_eq]

theorem pairwise_mergeSort_textLe (texts : List String) :
    (texts.mergeSort textLe).Pairwise (· ≤ ·) := by
  refine (List.pairwise_mergeSort ?_ ?_ texts).imp fun {a b} hab => by simpa [textLe] using hab
  · intro a b c hab hbc
    simp only [textLe,decide_eq_true_eq] at *
    exact hab.trans hbc
  · intro a b
    simpa [textLe] using le_total a b

/-- The paths of the files are in strictly ascending order. -/
theorem pairwise_segmentFiles {names : List String} (h : names.Nodup) (stem directory : String) :
    ((segmentFiles stem names).map (joinPath directory)).Pairwise (· < ·) := by
  have hsorted : (segmentFiles stem names).Pairwise (· ≤ ·) := pairwise_mergeSort_textLe _
  have hnodup : (segmentFiles stem names).Nodup :=
    (List.mergeSort_perm _ _).nodup_iff.mpr (h.filter _)
  rw [List.pairwise_map]
  refine (hsorted.and hnodup).imp fun hab => ?_
  rw [joinPath_lt_iff]
  exact lt_of_le_of_ne hab.1 hab.2

/-- A conversation goes on where its first part ended. -/
theorem Talk.run_bind_of_ok {σ α β : Type} {x : Talk σ α} {f : α → Talk σ β} {s s' : σ} {a : α}
    (h : x.run s = (.ok a,s')) : (x >>= f).run s = (f a).run s' := by
  change (match x.run s with | (r,s) => ExceptT.bindCont f r s) = _
  rw [h]
  rfl

namespace Link

open Talk

variable {σ : Type}

/-- The statement that asks the server for the file of a relation. -/
def fileSql (relation : String) : String :=
  "SELECT current_setting('data_directory') || '/' || " ++ s!"pg_relation_filepath('{relation}');"

/-- Where the server tells the file of a relation and its directory can be listed, the files are in
strictly ascending order, and they are the told one, its numbered segments and the name with a bare
dot behind it, as far as they are listed. -/
theorem relationFiles_segments (l : Link σ) (settings : ClientSettings) (relation : String)
    {s s₁ s₂ : σ} {e : Execution} {path directory stem : String} {names : List String}
    (htold : (l.execute settings.statementTimeoutMs (fileSql relation)).run s = (.ok e,s₁))
    (hpath : e.scalar = some path) (hstem : splitPath? path = some (directory,stem))
    (hlisted : l.namesIn directory s₁ = (.ok names,s₂)) (hnodup : names.Nodup) :
    ∃ files, (l.relationFiles settings relation).run s = (.ok files,s₂) ∧
      files.Pairwise (· < ·) ∧ ∀ file, file ∈ files ↔ ∃ name ∈ names,
        file = joinPath directory name ∧
          (name = stem ∨ IsNumbered stem name ∨ name = stem ++ ".") := by
  refine ⟨(segmentFiles stem names).map (joinPath directory),?_,
    pairwise_segmentFiles hnodup stem directory,fun file => ?_⟩
  · have hnames : (liftM (l.namesIn directory) : Talk σ _).run s₁ = (.ok (.ok names),s₂) := by
      change (match l.namesIn directory s₁ with | (a,s) => ((Except.ok a : Except Fault _),s)) = _
      rw [hlisted]
    unfold relationFiles
    refine (run_bind_of_ok htold).trans ?_
    simp only [hpath,hstem,Option.bind_some]
    exact run_bind_of_ok hnames
  · simp only [List.mem_map,mem_segmentFiles,isSegmentOf_iff]
    constructor
    · rintro ⟨name,⟨hname,hsegment⟩,rfl⟩
      exact ⟨name,hname,rfl,hsegment⟩
    · rintro ⟨name,hname,rfl,hsegment⟩
      exact ⟨name,⟨hname,hsegment⟩,rfl⟩

end Link

/-- A link to a server that tells one file, in a directory with given names. -/
def Link.onShelf (path : String) (names : List String) : Link Unit where
  dial _ _ := (.ok (),())
  query _ _ := (.ok ⟨0,[[some path]]⟩,())
  namesIn _ _ := (.ok names,())
  runProgram _ _ _ := (.ok ⟨.code 0,""⟩,())
  clock _ := (0,())

/-- A relation's file and its first segment, with another fork and another relation. -/
def relationShelf : List String := ["163845","16384.1","16384_fsm","16384"]

namespace Link

theorem relationFiles_segments_shelf : relationShelf.Nodup ∧
    splitPath? "/data/16384" = some ("/data","16384") ∧ ∃ files,
      ((onShelf "/data/16384" relationShelf).relationFiles (Settings.client {}) "t").run () =
        (.ok files,()) ∧
      files.Pairwise (· < ·) ∧ joinPath "/data" "16384.1" ∈ files ∧
      joinPath "/data" "16384_fsm" ∉ files ∧ joinPath "/data" "163845" ∉ files := by
  have hnodup : relationShelf.Nodup := by decide
  have hstem : splitPath? "/data/16384" = some ("/data","16384") := by decide +kernel
  obtain ⟨files,hfiles,hsorted,hmem⟩ := relationFiles_segments (onShelf "/data/16384" relationShelf)
    (Settings.client {}) "t" (s := ()) rfl rfl hstem rfl hnodup
  have hsegment : ∀ name, joinPath "/data" name ∈ files ↔
      name ∈ relationShelf ∧ isSegmentOf "16384" name = true := by
    intro name
    simp only [hmem,joinPath_inj,isSegmentOf_iff]
    exact ⟨fun ⟨_,hname,heq,h⟩ => heq ▸ ⟨hname,h⟩,fun ⟨hname,h⟩ => ⟨name,hname,rfl,h⟩⟩
  refine ⟨hnodup,hstem,files,hfiles,hsorted,?_,?_,?_⟩
  · exact (hsegment _).mpr (by decide)
  · exact fun h => absurd ((hsegment _).mp h).2 (by decide)
  · exact fun h => absurd ((hsegment _).mp h).2 (by decide)

end Link

/-- A name that ends with the dot is taken for a segment. -/
theorem not_only_numbered_segments : ¬ ∀ (stem : String) (names : List String), names.Nodup →
    ∀ name, name ∈ segmentFiles stem names ↔
      name ∈ names ∧ (name = stem ∨ IsNumbered stem name) := by
  intro h
  have hdot : "16384." ∈ segmentFiles "16384" ["16384","16384."] :=
    mem_segmentFiles.mpr ⟨by decide,by decide⟩
  rcases ((h _ _ (by decide) _).mp hdot).2 with hstem | hnumbered
  · exact absurd hstem (by decide)
  · exact not_isNumbered_dot "16384" hnumbered

end IndexTrial
