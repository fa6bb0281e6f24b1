import IndexTrial.Failure
import IndexTrial.Files.Step
import IndexTrial.Regression.Document

/-!
The baseline in a file. A missing file is no baseline; a file that cannot be read is a fault. The
file is replaced by writing a second one beside it and renaming that over it. A name that ends in
the second file's extension is its own second file.
-/

namespace IndexTrial

namespace Baseline

def load (t : FileTree) (path : String) : Except Fault (Option Baseline) :=
  match t.entryAt? (.read path) with
  | none => .ok none
  | some .directory => .error (.baseline s!"{path}: Is a directory")
  | some (.file text) =>
    match ofDocument? text with
    | some b => .ok (some b)
    | none => .error (.baseline s!"{path}: not a baseline")

/-- As `load`; a baseline that cannot be used is no baseline. -/
def loadUsable (t : FileTree) (path : String) : Option Baseline :=
  match load t path with
  | .ok b => b
  | .error _ => none

/-- Where the new text is written first. -/
def temporary (path : FilePath) : FilePath := path.mapName (FilePath.withExtension "tmp")

def replacement (path : FilePath) (text : String) : List FileStep :=
  [.makeDirectories path.parent,.create (temporary path),.append (temporary path) text,
    .sync (temporary path),.rename (temporary path) path]

def stepFailure : FileStep → Failure
  | .makeDirectories _ => .baselineDirectory
  | .create _ => .baselineCreation
  | .append _ _ => .baselineWriting
  | .sync _ => .baselineWriting
  | .rename _ _ => .baselineRenaming

def commit (b : Baseline) (createdAt : Moment) (path : String) (t : FileTree) :
    Except Failure Unit × FileTree :=
  match t.perform (replacement (.read path) (b.document createdAt)) with
  | (t,none) => (.ok (),t)
  | (t,some s) => (.error (stepFailure s),t)

end Baseline

def Artifact.load (t : FileTree) (path : String) : Except Failure Artifact :=
  match t.contents? (.read path) with
  | none => .error (.resultsUnreadable path)
  | some text =>
    match Artifact.ofDocument? text with
    | none => .error .resultsMalformed
    | some a => .ok a

namespace Baseline

/-- What an artifact gives as baseline for its candidate engine, if anything. -/
def ofArtifact (path : String) (a : Artifact) : Except Failure Baseline :=
  let b := ofMeasurements a.engines.candidate a.results
  if b.isEmpty then .error (.nothingToAccept path a.engines.candidate) else .ok b

/-- Replaces the baseline by the candidate results of a saved artifact; the number of entries. -/
def accept (now : Moment) (results path : String) (t : FileTree) : Except Failure Nat × FileTree :=
  match (Artifact.load t results).bind (ofArtifact results) with
  | .error e => (.error e,t)
  | .ok b =>
    match b.commit now path t with
    | (.error e,t) => (.error e,t)
    | (.ok _,t) => (.ok b.size,t)

end Baseline

end IndexTrial
