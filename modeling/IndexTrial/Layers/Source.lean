import IndexTrial.Files.Tree
import IndexTrial.Json.Record
import IndexTrial.Toml.Reader
import IndexTrial.Yaml.Reader

/-!
A file as a source of settings. The last part of its name says in which format it is written; a
name of no file is tried with the extensions of the formats behind it. Without a file there are no
settings.
-/

namespace IndexTrial

inductive SourceFormat
  | toml
  | json
  | yaml
  deriving DecidableEq, Repr

namespace SourceFormat

def extensions : List (String × SourceFormat) :=
  [("toml",toml),("json",json),("yaml",yaml),("yml",yaml)]

def deepestJson : Nat := 127

def readJson? (text : String) : Option (List (String × RawValue)) := do
  let j ← Json.read? text
  if !j.isSound || deepestJson < j.depth then none
  else
    match RawValue.ofJson j with
    | .table es => some es
    | _ => none

def read? : SourceFormat → String → Option (List (String × RawValue))
  | toml => Toml.read?
  | json => readJson?
  | yaml => Yaml.read?

end SourceFormat

/-- A mark of the byte order at the front does not count. -/
def withoutByteOrderMark (text : String) : String :=
  match text.toList with
  | c :: cs => if c.toNat = 0xfeff then String.ofList cs else text
  | [] => text

def SourceFormat.withExtensions (path : FilePath) : List (FilePath × SourceFormat) :=
  extensions.map fun (extension,format) =>
    (path.mapName fun name => s!"{name}.{extension}",format)

namespace FileTree

def source? (t : FileTree) (path : String) : Option (SourceFormat × String) :=
  let p := FilePath.read path
  match t.contents? p with
  | some text =>
    (SourceFormat.extensions.lookup (FilePath.extension (p.getLastD ""))).map (·,text)
  | none => (SourceFormat.withExtensions p).findSome? fun (q,format) =>
    (t.contents? q).map (format,·)

/-- The entries of the file that a path names, none without a file; nothing if the file cannot be
read. -/
def sourceEntries? (t : FileTree) (path : String) : Option (List (String × RawValue)) :=
  match t.source? path with
  | none => some []
  | some (format,text) => format.read? (withoutByteOrderMark text)

end FileTree

end IndexTrial
