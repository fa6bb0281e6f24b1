import IndexTrial.Proofs.Document.Saved
import IndexTrial.Proofs.Regression.Replacement

/-!
The life of a baseline file. Runs only read files, saving a run writes files that are no baselines, and
an update puts the baseline of its results into the file or leaves the file alone. So what can be used
of the file is what the last update took from the results that it was given, or nothing.
-/

namespace IndexTrial

/-- A text that starts as no value does cannot be read. -/
theorem Json.read?_of_start {text : String} {c : Char} {cs : List Char} (htext : text.toList = c :: cs)
    (hspace : isSpace c = false) (hdigit : c.isDigit = false)
    (hc : c ∉ ['n','t','f','"','[','\x7b','-']) : read? text = none := by
  have hspan : spanDigits (c :: cs) = ([],c :: cs) := by simp [spanDigits,hdigit]
  have hvalue : readValue (text.toList.length + 1) text.toList = none := by
    simp only [List.mem_cons,List.not_mem_nil,or_false,not_or] at hc
    rw [htext,readValue,skipSpace_cons hspace]
    simp [hc,readNumber,hspan]
  unfold read?
  dsimp only
  rw [hvalue]
  rfl

namespace Baseline

/-! ### Texts that are no baseline -/

/-- A baseline says of which version its form is. -/
theorem ofJson?_of_missing {fs : List (String × Json)} (h : "version" ∉ fs.map Prod.fst) :
    ofJson? (.object fs) = none := by
  have hnone : fs.filter (·.1 == "version") = [] := by
    rw [List.filter_eq_nil_iff]
    intro f hf hname
    exact h (List.mem_map.mpr ⟨f,hf,by simpa using hname⟩)
  have hfield : Json.uniqueField? "version" fs = some none := by simp [Json.uniqueField?,hnone]
  have hrecord : Json.record? ["version","created_at","engine","results"] (.object fs) =
      (["created_at","engine","results"].mapM (Json.uniqueField? · fs)).map (⟨none :: ·,false⟩) := by
    rw [Json.record?,List.mapM_cons,hfield]
    cases ["created_at","engine","results"].mapM (Json.uniqueField? · fs) <;> rfl
  rw [ofJson?,hrecord]
  cases ["created_at","engine","results"].mapM (Json.uniqueField? · fs) <;> rfl

theorem ofDocument?_artifact (a : Artifact) : ofDocument? a.document = none := by
  obtain ⟨fs,hread,hnames⟩ : ∃ fs, Json.read? a.document = some (.object fs) ∧
      fs.map Prod.fst = ["run_id","mode","started_at","finished_at","environment","engines",
        "baseline_loaded","budget","workloads","results","summary"] := Json.read?_pretty_object _
  rw [ofDocument?,hread,Option.bind_some]
  exact ofJson?_of_missing (by rw [hnames]; decide)

theorem ofDocument?_report (a : Artifact) : ofDocument? (Markdown.render a) = none := by
  obtain ⟨cs,hcs⟩ : ∃ cs, (Markdown.render a).toList = '#' :: cs := by
    simp [Markdown.render,Markdown.lines,toString]
  rw [ofDocument?,Json.read?_of_start hcs (by decide) (by decide) (by decide)]
  rfl

theorem ofDocument?_table (ms : List Measurement) : ofDocument? (Table.document ms) = none := by
  obtain ⟨cs,hcs⟩ : ∃ cs, (Table.document ms).toList = 'w' :: cs := by
    have hheader : ∃ rest, Table.writeRecord Table.header = 'w' :: rest := ⟨_,rfl⟩
    obtain ⟨rest,hrest⟩ := hheader
    simp [Table.document,hrest]
  rw [ofDocument?,Json.read?_of_start hcs (by decide) (by decide) (by decide)]
  rfl

/-! ### The file at the path -/

variable {t u : FileTree} {path text : String}

/-- What can be used of the path is as before, or nothing. -/
def Kept (path : String) (t u : FileTree) : Prop :=
  loadUsable u path = loadUsable t path ∨ loadUsable u path = none

theorem loadUsable_congr (h : u.entryAt? (.read path) = t.entryAt? (.read path)) :
    loadUsable u path = loadUsable t path := by
  unfold loadUsable load
  rw [h]

theorem loadUsable_of_directory (h : t.entryAt? (.read path) = some .directory) :
    loadUsable t path = none := by
  unfold loadUsable load
  rw [h]

theorem loadUsable_of_missing (h : t.entryAt? (.read path) = none) : loadUsable t path = none := by
  unfold loadUsable load
  rw [h]

/-- A second file that is the file itself can be written once it was created, so that an update which
fails has not begun to. -/
theorem entryAt?_replacement_inPlace {p : FilePath} {step : FileStep} (hown : p = temporary p)
    (hnot : p ∉ p.parent.ancestry) (h : t.perform (replacement p text) = (u,some step)) :
    u.entryAt? p = t.entryAt? p := by
  rw [replacement] at h
  cases hmake : t.step? (.makeDirectories p.parent) with
  | none =>
    rw [FileTree.perform_cons_of_fails _ hmake] at h
    rw [(Prod.mk.inj h).1]
  | some made =>
    have hmade : made.entryAt? p = t.entryAt? p := FileTree.entryAt?_makeDirectories? hmake hnot
    rw [FileTree.perform_cons_of_step? _ hmake,← hown] at h
    cases hcreate : made.step? (.create p) with
    | none =>
      rw [FileTree.perform_cons_of_fails _ hcreate] at h
      rw [← (Prod.mk.inj h).1,hmade]
    | some created =>
      have hcreate : made.write? p "" = some created := hcreate
      have hempty := FileTree.contents?_write? hcreate
      have hwrite := FileTree.write?_of_write? hcreate text
      have htext := FileTree.contents?_write? hwrite
      simp [FileTree.perform,FileTree.step?,hcreate,hempty,hwrite,htext,FileTree.rename?] at h

/-- Beside another second file, the rename has failed if anything has. -/
theorem entryAt?_replacement_beside {p : FilePath} {step : FileStep}
    (hspares : ∀ step ∈ staging p [p.parent] [text], step.Spares p)
    (h : t.perform (replacement p text) = (u,some step)) : u.entryAt? p = t.entryAt? p := by
  have hsteps : replacement p text = staging p [p.parent] [text] ++ [.rename (temporary p) p] := rfl
  have hstaged := FileTree.entryAt?_perform (t := t) hspares
  rw [hsteps,FileTree.perform_append] at h
  rcases hstaging : t.perform (staging p [p.parent] [text]) with ⟨staged,_ | failed⟩
  · rw [hstaging] at h hstaged
    cases hrename : staged.step? (.rename (temporary p) p) with
    | none =>
      have hleft := (Prod.mk.inj ((FileTree.perform_cons_of_fails _ hrename).symm.trans h)).1
      rw [← hleft,hstaged]
    | some renamed =>
      have hdone := (FileTree.perform_cons_of_step? [] hrename).symm.trans h
      cases hdone
  · rw [hstaging] at h hstaged
    rw [← (Prod.mk.inj h).1,hstaged]

/-- An update that could not replace the file has left it alone. -/
theorem entryAt?_replacement_of_failed {directory : FilePath} {name : String} {step : FileStep}
    (h : t.perform (replacement (directory ++ [name]) text) = (u,some step)) :
    u.entryAt? (directory ++ [name]) = t.entryAt? (directory ++ [name]) := by
  have hparent : FilePath.parent (directory ++ [name]) <+: directory := by simp [FilePath.parent]
  by_cases hown : directory ++ [name] = temporary (directory ++ [name])
  · apply entryAt?_replacement_inPlace hown _ h
    exact notMem_ancestry_of_prefix hparent
  · exact entryAt?_replacement_beside (spares_staging hown (by simpa using hparent)) h

namespace Kept

theorem refl (path : String) (t : FileTree) : Kept path t t := .inl rfl

theorem trans {v : FileTree} (h₁ : Kept path t u) (h₂ : Kept path u v) : Kept path t v := by
  rcases h₂ with h₂ | h₂
  · rcases h₁ with h₁ | h₁
    · exact .inl (h₂.trans h₁)
    · exact .inr (h₂.trans h₁)
  · exact .inr h₂

theorem of_makeDirectories? {p : FilePath} (h : t.makeDirectories? p = some u) : Kept path t u := by
  rcases FileTree.entryAt?_makeDirectories?_or h (.read path) with hsame | hdirectory
  · exact .inl (loadUsable_congr hsame)
  · exact .inr (loadUsable_of_directory hdirectory)

theorem of_writeFile {failure : Failure} {other : String} (h : writeFile failure other text t = .ok u)
    (htext : ofDocument? text = none) : Kept path t u := by
  have hwrite := write?_of_writeFile h
  by_cases hp : FilePath.read path = .read other
  · have hentry := FileTree.entryAt?_write? hwrite
    rw [← hp] at hentry
    exact .inr ((loadUsable_of_file hentry).trans htext)
  · exact .inl (loadUsable_congr (FileTree.entryAt?_write?_of_ne hwrite hp))

/-- The files of a run are no baselines, wherever they are saved. -/
theorem save (a : Artifact) (directory : String) (t : FileTree) : Kept path t (a.save directory t).2 := by
  unfold Artifact.save
  cases hmade : t.makeDirectories? (.read directory) with
  | none => exact refl path t
  | some made =>
    have hkept : Kept path t made := of_makeDirectories? hmade
    dsimp only
    split
    · exact hkept
    · rename_i saved hsaved
      have hkept := hkept.trans (of_writeFile hsaved (ofDocument?_artifact a))
      split
      · exact hkept
      · rename_i reported hreported
        have hkept := hkept.trans (of_writeFile hreported (ofDocument?_report a))
        split
        · exact hkept
        · rename_i tabled htabled
          exact hkept.trans (of_writeFile htabled (ofDocument?_table a.results))

end Kept

/-! ### The life of the file -/

/-- How a file can come to be at the path where there was none, and the artifact that it was last
updated from. A run changes no file, but what it gives may be saved anywhere. -/
inductive Life (path : String) : FileTree → Option Artifact → Prop
  | missing {t : FileTree} (hmissing : t.entryAt? (.read path) = none) : Life path t none
  | saved {t : FileTree} {last : Option Artifact} (hlife : Life path t last) (a : Artifact)
      (directory : String) : Life path (a.save directory t).2 last
  | updated {t u : FileTree} {last : Option Artifact} {now : Moment} {results : String}
      {source : Artifact} {n : Nat} (hlife : Life path t last) (hnow : now.Valid)
      (hsource : Artifact.load t results = .ok source)
      (haccept : accept now results path t = (.ok n,u)) : Life path u (some source)
  | refused {t u : FileTree} {last : Option Artifact} {now : Moment} {results : String}
      {e : Failure} (hlife : Life path t last) (haccept : accept now results path t = (.error e,u)) :
      Life path u last

/-- What the results of an artifact's candidate engine give. -/
def ofSource (source : Artifact) (now : Moment) : Baseline :=
  { ofMeasurements source.engines.candidate source.results with createdAt := some now }

/-- Nothing can be used of the path, or what was taken from the artifact. -/
def TakenFrom (path : String) (t : FileTree) (last : Option Artifact) : Prop :=
  ∀ b, loadUsable t path = some b → ∃ source now, last = some source ∧ b = ofSource source now

theorem TakenFrom.kept {last : Option Artifact} (h : TakenFrom path t last) (hkept : Kept path t u) :
    TakenFrom path u last := by
  intro b hb
  rcases hkept with hsame | hnone
  · exact h b (hsame ▸ hb)
  · rw [hnone] at hb
    cases hb

/-- A baseline of words is read back from its file, or not at all. -/
theorem ofDocument?_of_some {b read : Baseline} {now : Moment} (hascending : b.entries.Ascending)
    (hbytes : ∀ f ∈ b.entries, f.2.indexBytes < 2 ^ 64) (hnow : now.Valid)
    (h : ofDocument? (b.document now) = some read) : read = { b with createdAt := some now } := by
  by_cases hp50 : ∀ f ∈ b.entries, f.2.p50.isFinite = true
  · have hstorable : b.Storable := ⟨hascending,hp50,hbytes⟩
    rw [hstorable.ofDocument?_document hnow] at h
    exact (Option.some.inj h).symm
  · obtain ⟨f,hf,hinfinite⟩ : ∃ f ∈ b.entries, f.2.p50.isFinite = false := by simpa using hp50
    rw [ofDocument?_document_eq_none hbytes hnow hf hinfinite] at h
    cases h

theorem load_eq_ok {results : String} {source : Artifact} (h : Artifact.load t results = .ok source) :
    ∃ text, Artifact.ofDocument? text = some source := by
  unfold Artifact.load at h
  split at h
  · cases h
  · split at h
    · cases h
    · cases h
      exact ⟨_,‹_›⟩

theorem accept_eq_ok {now : Moment} {results : String} {source : Artifact} {n : Nat}
    (hsource : Artifact.load t results = .ok source)
    (h : accept now results path t = (.ok n,u)) : t.perform (replacement (.read path)
      ((ofMeasurements source.engines.candidate source.results).document now)) = (u,none) := by
  cases haccepted : accepted t results with
  | error e =>
    rw [accept_of_refused haccepted] at h
    cases h
  | ok b =>
    obtain rfl : ofMeasurements source.engines.candidate source.results = b := by
      simp only [accepted,hsource,Except.bind,ofArtifact] at haccepted
      split at haccepted <;> cases haccepted
      rfl
    rw [accept_of_accepted haccepted] at h
    obtain ⟨hdone,hleft⟩ := Prod.mk.inj h
    refine Prod.ext hleft ?_
    split at hdone
    · assumption
    · cases hdone

/-- A refused update leaves the path alone. -/
theorem entryAt?_accept_of_error {now : Moment} {results : String} {e : Failure}
    (hpath : FilePath.read path ≠ []) (h : accept now results path t = (.error e,u)) :
    u.entryAt? (.read path) = t.entryAt? (.read path) := by
  cases haccepted : accepted t results with
  | error e =>
    rw [accept_of_refused haccepted] at h
    rw [(Prod.mk.inj h).2]
  | ok b =>
    rw [accept_of_accepted haccepted] at h
    obtain ⟨hdone,hleft⟩ := Prod.mk.inj h
    obtain ⟨directory,name,hsplit⟩ := (List.eq_nil_or_concat' (FilePath.read path)).resolve_left hpath
    rw [hsplit] at hdone hleft ⊢
    split at hdone
    · cases hdone
    · rename_i step hstep
      exact entryAt?_replacement_of_failed (Prod.ext hleft hstep)

/-- An update puts in place what its results give. -/
theorem takenFrom_of_accept {now : Moment} {results : String} {source : Artifact} {n : Nat}
    (hnow : now.Valid) (hsource : Artifact.load t results = .ok source)
    (haccept : accept now results path t = (.ok n,u)) : TakenFrom path u (some source) := by
  intro read hread
  obtain ⟨text,htext⟩ := load_eq_ok hsource
  rw [loadUsable_of_file (entryAt?_replacement (accept_eq_ok hsource haccept))] at hread
  exact ⟨source,now,rfl,ofDocument?_of_some (ascending_ofMeasurements _ _)
    (indexBytes_ofMeasurements (Artifact.indexSize_lt htext)) hnow hread⟩

namespace Life

variable {last : Option Artifact}

/-- The root is a directory, so a path where there was nothing has a name. -/
theorem read_ne_nil (h : Life path t last) : FilePath.read path ≠ [] := by
  induction h with
  | missing hmissing =>
    intro hroot
    rw [hroot] at hmissing
    cases hmissing
  | saved _ _ _ ih => exact ih
  | updated _ _ _ _ ih => exact ih
  | refused _ _ ih => exact ih

/-- Whatever was saved and refused since, the file has the values of its last update or none. -/
theorem takenFrom (h : Life path t last) : TakenFrom path t last := by
  induction h with
  | missing hmissing =>
    intro b hb
    rw [loadUsable_of_missing hmissing] at hb
    cases hb
  | saved _ a directory ih => exact ih.kept (Kept.save a directory _)
  | updated _ hnow hsource haccept _ => exact takenFrom_of_accept hnow hsource haccept
  | refused hlife haccept ih =>
    exact ih.kept (.inl (loadUsable_congr (entryAt?_accept_of_error hlife.read_ne_nil haccept)))

end Life

end Baseline

end IndexTrial
