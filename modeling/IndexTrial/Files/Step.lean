import IndexTrial.Files.Tree

/-!
File system effects as data. A program that writes files is a list of steps; a crash after some of
them leaves the tree of a shorter list.
-/

namespace IndexTrial

inductive FileStep
  | makeDirectories (path : FilePath)
  /-- An empty file; one that is there is emptied. -/
  | create (path : FilePath)
  | append (path : FilePath) (text : String)
  | sync (path : FilePath)
  | rename (source target : FilePath)
  deriving DecidableEq, Repr

namespace FileTree

def step? (t : FileTree) : FileStep → Option FileTree
  | .makeDirectories p => t.makeDirectories? p
  | .create p => t.write? p ""
  | .append p text => (t.contents? p).bind fun s => t.write? p (s ++ text)
  | .sync p => (t.contents? p).map fun _ => t
  | .rename source target => t.rename? source target

/-- The tree after the steps up to the first that fails, and that step. -/
def perform (t : FileTree) : List FileStep → FileTree × Option FileStep
  | [] => (t,none)
  | s :: ss =>
    match t.step? s with
    | some t => t.perform ss
    | none => (t,some s)

theorem perform_cons_of_step? {t u : FileTree} {s : FileStep} (ss : List FileStep)
    (h : t.step? s = some u) : t.perform (s :: ss) = u.perform ss := by
  simp [perform,h]

theorem perform_cons_of_fails {t : FileTree} {s : FileStep} (ss : List FileStep)
    (h : t.step? s = none) : t.perform (s :: ss) = (t,some s) := by
  simp [perform,h]

end FileTree

end IndexTrial
