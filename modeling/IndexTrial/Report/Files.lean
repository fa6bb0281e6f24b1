import IndexTrial.Document.Encode
import IndexTrial.Failure
import IndexTrial.Files.Tree
import IndexTrial.Report.Markdown
import IndexTrial.Report.Table

/-! The files of a run: the artifact as JSON, the report as Markdown, and the table. -/

namespace IndexTrial

def writeFile (failure : Failure) (path text : String) (t : FileTree) :
    Except Failure FileTree :=
  (t.write? (.read path) text).elim (.error failure) .ok

namespace Artifact

def paths (a : Artifact) (directory : String) : List String :=
  ["json","md","csv"].map fun extension => joinPath directory s!"{a.stem}.{extension}"

/-- Writes the three files; those written before a failure stay. -/
def save (a : Artifact) (directory : String) (t : FileTree) :
    Except Failure (List String) × FileTree :=
  let path (extension : String) := joinPath directory s!"{a.stem}.{extension}"
  match t.makeDirectories? (.read directory) with
  | none => (.error (.resultsDirectory directory),t)
  | some t =>
    match writeFile (.resultsUnwritten (path "json")) (path "json") a.document t with
    | .error e => (.error e,t)
    | .ok t =>
      match writeFile (.resultsUnwritten (path "md")) (path "md") (Markdown.render a) t with
      | .error e => (.error e,t)
      | .ok t =>
        match writeFile (.tableUnwritten (path "csv")) (path "csv") (Table.document a.results) t with
        | .error e => (.error e,t)
        | .ok t => (.ok (a.paths directory),t)

end Artifact

end IndexTrial
