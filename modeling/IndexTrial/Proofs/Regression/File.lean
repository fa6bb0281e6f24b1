import IndexTrial.Proofs.Files.Tree
import IndexTrial.Proofs.Regression.Document
import IndexTrial.Regression.File

/-! A baseline that was written to its file is loaded from it. -/

namespace IndexTrial

namespace Baseline

variable {t u : FileTree} {b : Baseline} {now : Moment} {path : String}

/-- When all steps of a replacement succeed, the path holds the new text. -/
theorem entryAt?_replacement {p : FilePath} {text : String}
    (h : t.perform (replacement p text) = (u,none)) : u.entryAt? p = some (.file text) := by
  obtain ⟨made,-,h⟩ := FileTree.perform_cons_eq_none h
  obtain ⟨created,hcreate,h⟩ := FileTree.perform_cons_eq_none h
  obtain ⟨written,hwrite,h⟩ := FileTree.perform_cons_eq_none h
  obtain ⟨synced,hsync,h⟩ := FileTree.perform_cons_eq_none h
  obtain ⟨renamed,hrename,h⟩ := FileTree.perform_cons_eq_none h
  obtain rfl : renamed = u := (Prod.mk.inj h).1
  have hempty : created.contents? (temporary p) = some "" := FileTree.contents?_write? hcreate
  have htext : written.contents? (temporary p) = some text := by
    have happend : created.write? (temporary p) ("" ++ text) = some written := by
      simpa [FileTree.step?,hempty] using hwrite
    simpa using FileTree.contents?_write? happend
  obtain rfl : written = synced := by simpa [FileTree.step?,htext] using hsync
  exact FileTree.entryAt?_rename? hrename htext

/-- A baseline that was committed is loaded as it was, with the moment of writing. -/
theorem Storable.load_of_perform (hb : b.Storable) (hnow : now.Valid)
    (h : t.perform (replacement (.read path) (b.document now)) = (u,none)) :
    load u path = .ok (some { b with createdAt := some now }) := by
  unfold load
  rw [entryAt?_replacement h]
  dsimp only
  rw [hb.ofDocument?_document hnow]

/-- A file whose text is no baseline is a fault. -/
theorem load_of_perform_unreadable (hnone : ofDocument? (b.document now) = none)
    (h : t.perform (replacement (.read path) (b.document now)) = (u,none)) :
    load u path = .error (.baseline s!"{path}: not a baseline") := by
  unfold load
  rw [entryAt?_replacement h]
  dsimp only
  rw [hnone]

/-- What can be used of a file is what its text says. -/
theorem loadUsable_of_file {text : String} (h : t.entryAt? (.read path) = some (.file text)) :
    loadUsable t path = ofDocument? text := by
  unfold loadUsable load
  rw [h]
  dsimp only
  cases ofDocument? text <;> rfl

theorem commit_eq_ok_iff : b.commit now path t = (.ok (),u) ↔
    t.perform (replacement (.read path) (b.document now)) = (u,none) := by
  unfold commit
  rcases t.perform (replacement (.read path) (b.document now)) with ⟨v,_ | step⟩ <;> simp

end Baseline

end IndexTrial
