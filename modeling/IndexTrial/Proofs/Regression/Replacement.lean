import IndexTrial.Proofs.Files.Path
import IndexTrial.Proofs.Regression.Acceptance

/-!
Where an update of the baseline file can stop, and what the file then holds: its old content or the
whole new one, unless its name has the extension of the second file. The second file is then the
file itself, which is emptied and written in place.
-/

namespace IndexTrial

namespace Baseline

variable {t u : FileTree} {p directory : FilePath} {name : String} {dirs : List FilePath}
  {pieces : List String} {now : Moment} {results path : String}

/-- The steps before the rename, in as small pieces as the file system may take. -/
def staging (p : FilePath) (dirs : List FilePath) (pieces : List String) : List FileStep :=
  dirs.map .makeDirectories ++
    .create (temporary p) :: (pieces.map (.append (temporary p)) ++ [.sync (temporary p)])

def piecewise (p : FilePath) (dirs : List FilePath) (pieces : List String) : List FileStep :=
  staging p dirs pieces ++ [.rename (temporary p) p]

/-- The trees that an update can leave. -/
inductive Stopped (now : Moment) (results path : String) (t : FileTree) : FileTree → Prop
  /-- The results give no baseline. -/
  | refused {e : Failure} (haccepted : accepted t results = .error e) : Stopped now results path t t
  /-- One of the first `n` steps fails, or nothing is done after them. -/
  | after {b : Baseline} (dirs : List FilePath) (pieces : List String)
      (haccepted : accepted t results = .ok b)
      (hdirs : ∀ d ∈ dirs, d <+: (FilePath.read path).parent)
      (hpieces : String.join pieces = b.document now) (n : Nat) :
      Stopped now results path t (t.perform ((piecewise (.read path) dirs pieces).take n)).1
  /-- A piece ends inside a character. What is in the second file is no text; any stands for it. -/
  | within {b : Baseline} {dirs : List FilePath} {u : FileTree}
      (haccepted : accepted t results = .ok b)
      (hdirs : ∀ d ∈ dirs, d <+: (FilePath.read path).parent)
      (hcreate : t.perform (dirs.map .makeDirectories ++ [.create (temporary (.read path))]) =
        (u,none)) (text : String) :
      Stopped now results path t (u.put (temporary (.read path)) (.file text))

/-- The path is as it was, or holds the whole new text. -/
def Whole (now : Moment) (results path : String) (t u : FileTree) : Prop :=
  u.entryAt? (.read path) = t.entryAt? (.read path) ∨
    ∃ b, accepted t results = .ok b ∧ u.contents? (.read path) = some (b.document now)

theorem temporary_append (directory : FilePath) (name : String) :
    temporary (directory ++ [name]) = directory ++ [FilePath.withExtension "tmp" name] :=
  FilePath.mapName_append _ directory name

/-- The second file is another one unless the name ends as its name does. -/
theorem temporary_eq_self_iff :
    temporary (directory ++ [name]) = directory ++ [name] ↔ FilePath.extension name = "tmp" := by
  rw [temporary_append,← FilePath.withExtension_eq_self_iff (by decide : "tmp" ≠ "")]
  simp

theorem notMem_ancestry_of_prefix {d : FilePath} (hd : d <+: directory) :
    directory ++ [name] ∉ d.ancestry := by
  intro hmem
  have hlength := (FilePath.length_le_of_mem_ancestry hmem).trans hd.length_le
  simp at hlength

theorem spares_makeDirectories (hdirs : ∀ d ∈ dirs, d <+: directory) :
    ∀ step ∈ dirs.map FileStep.makeDirectories, step.Spares (directory ++ [name]) := by
  intro step hstep
  obtain ⟨d,hd,rfl⟩ := List.mem_map.mp hstep
  exact notMem_ancestry_of_prefix (hdirs d hd)

theorem spares_staging (hp : directory ++ [name] ≠ temporary (directory ++ [name]))
    (hdirs : ∀ d ∈ dirs, d <+: directory) :
    ∀ step ∈ staging (directory ++ [name]) dirs pieces, step.Spares (directory ++ [name]) := by
  intro step hstep
  simp only [staging,List.mem_append,List.mem_cons,List.not_mem_nil,or_false] at hstep
  rcases hstep with hstep | rfl | hstep | rfl
  · exact spares_makeDirectories hdirs step hstep
  · exact hp
  · obtain ⟨piece,-,rfl⟩ := List.mem_map.mp hstep
    exact hp
  · trivial

/-- Before the rename the second file holds all pieces. -/
theorem contents?_staging (h : t.perform (staging p dirs pieces) = (u,none)) :
    u.contents? (temporary p) = some (String.join pieces) := by
  obtain ⟨made,-,h⟩ := FileTree.perform_append_eq_none h
  obtain ⟨created,hcreate,h⟩ := FileTree.perform_cons_eq_none h
  obtain ⟨written,hwrite,h⟩ := FileTree.perform_append_eq_none h
  obtain ⟨synced,hsync,h⟩ := FileTree.perform_cons_eq_none h
  have htext : written.contents? (temporary p) = some ("" ++ String.join pieces) :=
    FileTree.contents?_perform_append (FileTree.contents?_write? hcreate) hwrite
  obtain rfl : written = synced := by simpa [FileTree.step?,htext] using hsync
  obtain rfl : written = u := (Prod.mk.inj h).1
  simpa using htext

/-- Beside another second file, the path is as it was until the rename and then has all pieces. -/
theorem entryAt?_perform_piecewise (hspares : ∀ step ∈ staging p dirs pieces, step.Spares p) :
    (t.perform (piecewise p dirs pieces)).1.entryAt? p = t.entryAt? p ∨
      (t.perform (piecewise p dirs pieces)).1.entryAt? p = some (.file (String.join pieces)) := by
  have hkept := FileTree.entryAt?_perform (t := t) hspares
  rw [piecewise,FileTree.perform_append]
  cases hstaging : t.perform (staging p dirs pieces) with
  | mk staged failed =>
    rw [hstaging] at hkept
    cases failed with
    | some step => exact .inl hkept
    | none =>
      dsimp only
      cases hrename : staged.step? (.rename (temporary p) p) with
      | none => exact .inl (by rwa [FileTree.perform_cons_of_fails _ hrename])
      | some renamed =>
        right
        rw [FileTree.perform_cons_of_step? _ hrename]
        exact FileTree.entryAt?_rename? hrename (contents?_staging hstaging)

theorem entryAt?_perform_take (hspares : ∀ step ∈ staging p dirs pieces, step.Spares p) (n : Nat) :
    (t.perform ((piecewise p dirs pieces).take n)).1.entryAt? p = t.entryAt? p ∨
      (t.perform ((piecewise p dirs pieces).take n)).1.entryAt? p =
        some (.file (String.join pieces)) := by
  by_cases hn : n ≤ (staging p dirs pieces).length
  · left
    rw [piecewise,List.take_append_of_le_length hn]
    exact FileTree.entryAt?_perform fun step hstep => hspares step (List.mem_of_mem_take hstep)
  · have hall : (piecewise p dirs pieces).length ≤ n := by
      simp only [piecewise,List.length_append,List.length_singleton]
      omega
    rw [List.take_of_length_le hall]
    exact entryAt?_perform_piecewise hspares

theorem Stopped.whole (h : Stopped now results path t u)
    (hpath : FilePath.read path = directory ++ [name]) (hname : FilePath.extension name ≠ "tmp") :
    Whole now results path t u := by
  have hp : directory ++ [name] ≠ temporary (directory ++ [name]) :=
    fun heq => hname (temporary_eq_self_iff.mp heq.symm)
  have hparent : (directory ++ [name]).parent = directory := List.dropLast_concat
  unfold Whole
  cases h with
  | refused => exact .inl rfl
  | @after b dirs pieces haccepted hdirs hpieces n =>
    rw [hpath] at hdirs ⊢
    rw [hparent] at hdirs
    refine (entryAt?_perform_take (spares_staging hp hdirs) n).imp_right fun hentry => ?_
    exact ⟨b,haccepted,by rw [FileTree.contents?,hentry,hpieces]⟩
  | @within b dirs made haccepted hdirs hcreate text =>
    rw [hpath] at hdirs hcreate ⊢
    rw [hparent] at hdirs
    have hspares : ∀ step ∈ dirs.map FileStep.makeDirectories ++
        [.create (temporary (directory ++ [name]))], step.Spares (directory ++ [name]) := by
      intro step hstep
      rcases List.mem_append.mp hstep with hstep | hstep
      · exact spares_makeDirectories hdirs step hstep
      · rw [List.mem_singleton.mp hstep]
        exact hp
    have hkept := FileTree.entryAt?_perform (t := t) hspares
    rw [hcreate] at hkept
    exact .inl ((FileTree.entryAt?_put_of_ne made _ hp).trans hkept)

/-- An update itself leaves one of these trees. -/
theorem stopped_accept (now : Moment) (results path : String) (t : FileTree) :
    Stopped now results path t (accept now results path t).2 := by
  cases haccepted : accepted t results with
  | error e =>
    rw [accept_of_refused haccepted]
    exact .refused haccepted
  | ok b =>
    rw [accept_of_accepted haccepted]
    exact .after [(FilePath.read path).parent] [b.document now] haccepted (by simp)
      (by simp [String.join]) 5

/-- When the second file is the file itself, each beginning of the new text stands in it. -/
theorem stopped_prefix {b : Baseline} (hpath : FilePath.read path = directory ++ [name])
    (hname : FilePath.extension name = "tmp") (haccepted : accepted t results = .ok b)
    (hcreate : t.perform [.makeDirectories directory,.create (.read path)] = (u,none))
    {s rest : String} (hs : s ++ rest = b.document now) :
    ∃ v, u.perform [.append (.read path) s] = (v,none) ∧ Stopped now results path t v ∧
      v.contents? (.read path) = some s := by
  have hp : temporary (.read path) = .read path := by
    rw [hpath]
    exact temporary_eq_self_iff.mpr hname
  have hparent : (FilePath.read path).parent = directory := by
    rw [hpath]
    exact List.dropLast_concat
  obtain ⟨made,hmake,hcreated⟩ := FileTree.perform_cons_eq_none hcreate
  obtain ⟨created,hwrite,hu⟩ := FileTree.perform_cons_eq_none hcreated
  obtain rfl : created = u := (Prod.mk.inj hu).1
  have hempty : created.contents? (.read path) = some "" := FileTree.contents?_write? hwrite
  have happend := FileTree.write?_of_write? hwrite s
  have hstep : created.step? (.append (.read path) s) =
      some (created.put (.read path) (.file s)) := by
    simpa [FileTree.step?,hempty] using happend
  have hrun : created.perform [.append (.read path) s] =
      (created.put (.read path) (.file s),none) :=
    FileTree.perform_cons_of_step? _ hstep
  refine ⟨_,hrun,?_,FileTree.contents?_write? happend⟩
  have hstop : Stopped now results path t
      (t.perform ((piecewise (.read path) [directory] [s,rest]).take 3)).1 :=
    .after [directory] [s,rest] haccepted (by simp [hparent]) (by simpa [String.join] using hs) 3
  have htake : (piecewise (.read path) [directory] [s,rest]).take 3 =
      [.makeDirectories directory,.create (.read path)] ++ [.append (.read path) s] := by
    simp [piecewise,staging,hp]
  rw [htake,FileTree.perform_append,hcreate] at hstop
  dsimp only at hstop
  rwa [hrun] at hstop

theorem not_whole_of_prefix {b : Baseline} (haccepted : accepted t results = .ok b)
    {s rest : String} (hs : s ++ rest = b.document now) (hrest : rest ≠ "")
    (hu : u.contents? (.read path) = some s) (ht : t.contents? (.read path) ≠ some s) :
    ¬ Whole now results path t u := by
  rintro (hold | ⟨b',hb',hnew⟩)
  · exact ht (by rw [← hu,FileTree.contents?,FileTree.contents?,hold])
  · obtain rfl : b = b' := by simpa [haccepted] using hb'
    rw [hu,← hs] at hnew
    exact hrest (by simpa using congrArg String.toList (Option.some.inj hnew))

/-- A results file, with an old file at a path. -/
def besideOld (text : String) (path : FilePath) : FileTree :=
  ⟨[(["r.json"],.file text),(path,.file "old")]⟩

theorem contents?_besideOld (text : String) (path : FilePath) :
    (besideOld text path).contents? (.read "r.json") = some text := rfl

theorem accepted_besideOld (path : FilePath) :
    accepted (besideOld repeatedKey.document path) "r.json" =
      .ok (ofMeasurements "smol" repeatedKey.results) :=
  accepted_of_keys storable_repeatedKey (contents?_besideOld _ path) (by decide)

theorem document_ne_empty (b : Baseline) (now : Moment) : b.document now ≠ "" := by
  simp [document,toJson,Json.pretty,Json.render]

theorem create_besideOld (text : String) : ∃ u, (besideOld text ["b.tmp"]).perform
    [.makeDirectories [],.create (.read "b.tmp")] = (u,none) := ⟨_,rfl⟩

theorem contents?_old (text : String) :
    (besideOld text ["b.tmp"]).contents? (.read "b.tmp") = some "old" := rfl

/-- An update stops with the old file or the whole new one wherever its second file is another
one. Where it is the file itself, every beginning of the new text is what some stop leaves. -/
theorem update_stops_whole_unless_tmp (now : Moment) (results : String) (t : FileTree)
    (hpath : FilePath.read path = directory ++ [name]) :
    Stopped now results path t (accept now results path t).2 ∧
    (FilePath.extension name ≠ "tmp" → ∀ u, Stopped now results path t u →
      Whole now results path t u) ∧
    (FilePath.extension name = "tmp" → ∀ b, accepted t results = .ok b →
      ∀ u, t.perform [.makeDirectories directory,.create (.read path)] = (u,none) →
      ∀ s rest, s ++ rest = b.document now →
        ∃ v, u.perform [.append (.read path) s] = (v,none) ∧ Stopped now results path t v ∧
          v.contents? (.read path) = some s ∧
          (rest ≠ "" → t.contents? (.read path) ≠ some s → ¬ Whole now results path t v)) := by
  refine ⟨stopped_accept now results path t,fun hname u hu => hu.whole hpath hname,?_⟩
  intro hname b haccepted u hcreate s rest hs
  obtain ⟨v,hrun,hstop,htext⟩ := stopped_prefix hpath hname haccepted hcreate hs
  exact ⟨v,hrun,hstop,htext,fun hrest hold => not_whole_of_prefix haccepted hs hrest htext hold⟩

theorem update_stops_whole_unless_tmp_besideOld :
    (∀ u, Stopped ⟨2,0⟩ "r.json" "b.json" (besideOld repeatedKey.document ["b.json"]) u →
      Whole ⟨2,0⟩ "r.json" "b.json" (besideOld repeatedKey.document ["b.json"]) u) ∧
    ∃ v, Stopped ⟨2,0⟩ "r.json" "b.tmp" (besideOld repeatedKey.document ["b.tmp"]) v ∧
      v.contents? (.read "b.tmp") = some "" ∧
      ¬ Whole ⟨2,0⟩ "r.json" "b.tmp" (besideOld repeatedKey.document ["b.tmp"]) v := by
  constructor
  · exact (update_stops_whole_unless_tmp ⟨2,0⟩ "r.json" (besideOld repeatedKey.document ["b.json"])
      (show FilePath.read "b.json" = [] ++ ["b.json"] from rfl)).2.1 (by decide)
  · obtain ⟨u,hcreate⟩ := create_besideOld repeatedKey.document
    obtain ⟨v,-,hstop,htext,hnot⟩ := (update_stops_whole_unless_tmp ⟨2,0⟩ "r.json"
      (besideOld repeatedKey.document ["b.tmp"])
      (show FilePath.read "b.tmp" = [] ++ ["b.tmp"] from rfl)).2.2 (by decide) _
      (accepted_besideOld _) u hcreate "" _ String.empty_append
    exact ⟨v,hstop,htext,hnot (document_ne_empty _ _) (by simp [contents?_old])⟩

/-- A stop right after the second file was made, under a name that is the file's own. -/
theorem not_every_stop_whole : ¬ ∀ (now : Moment) (results path : String) (t u : FileTree)
    (directory : FilePath) (name : String), FilePath.read path = directory ++ [name] →
    Stopped now results path t u → Whole now results path t u := by
  intro hwhole
  obtain ⟨u,hcreate⟩ := create_besideOld repeatedKey.document
  have hpath : FilePath.read "b.tmp" = [] ++ ["b.tmp"] := rfl
  have hdocument : "" ++ (ofMeasurements "smol" repeatedKey.results).document ⟨2,0⟩ =
      (ofMeasurements "smol" repeatedKey.results).document ⟨2,0⟩ := String.empty_append
  obtain ⟨v,-,hstop,htext⟩ := stopped_prefix hpath (by decide) (accepted_besideOld _) hcreate hdocument
  exact not_whole_of_prefix (accepted_besideOld _) hdocument (document_ne_empty _ _) htext
    (by simp [contents?_old]) (hwhole _ _ _ _ v [] "b.tmp" hpath hstop)

end Baseline

end IndexTrial
