import IndexTrial.Text.Search

/-!
A directory tree as a value: text files and directories under paths, and the operations on it. A
path is a list of names. The empty path is the working directory; a path from the root of the file
system has the name `/` in front. Both directories always exist.
-/

namespace IndexTrial

def joinPath (directory name : String) : String :=
  if directory.isEmpty || directory.endsWith "/" then directory ++ name
  else directory ++ "/" ++ name

abbrev FilePath := List String

namespace FilePath

def root : FilePath := ["/"]

/-- The names of a written path; `.` and repeated slashes do not count. -/
def read (text : String) : FilePath :=
  let names := (splitText '/' text).filter fun s => s ≠ "" && s ≠ "."
  if startsWithText text "/" then root ++ names else names

/-- The name before its last dot and what follows the dot. A dot in front starts no extension. -/
def splitName (name : String) : String × Option String :=
  let cs := name.toList.reverse
  let extension := cs.takeWhile (· ≠ '.')
  let stem := (cs.dropWhile (· ≠ '.')).drop 1
  if stem.isEmpty then (name,none)
  else (String.ofList stem.reverse,some (String.ofList extension.reverse))

def extension (name : String) : String := (splitName name).2.getD ""

def withExtension (extension : String) (name : String) : String :=
  (splitName name).1 ++ "." ++ extension

def mapName (f : String → String) : FilePath → FilePath
  | [] => []
  | [name] => [f name]
  | name :: rest => name :: mapName f rest

def parent (p : FilePath) : FilePath := p.dropLast

def ancestry (p : FilePath) : List FilePath := (List.range p.length).map fun i => p.take (i + 1)

def text : FilePath → String
  | "/" :: p => "/" ++ "/".intercalate p
  | p => "/".intercalate p

end FilePath

inductive Entry
  | file (contents : String)
  | directory
  deriving DecidableEq, Repr

structure FileTree where
  entries : List (FilePath × Entry) := []
  deriving DecidableEq, Inhabited, Repr

namespace FileTree

def entryAt? (t : FileTree) (p : FilePath) : Option Entry :=
  if p.isEmpty || p = FilePath.root then some .directory else t.entries.lookup p

def holds (t : FileTree) (p : FilePath) : Bool := (t.entryAt? p).isSome

def contents? (t : FileTree) (p : FilePath) : Option String :=
  match t.entryAt? p with
  | some (.file s) => some s
  | _ => none

def isDirectory (t : FileTree) (p : FilePath) : Bool := t.entryAt? p == some .directory

def put (t : FileTree) (p : FilePath) (e : Entry) : FileTree :=
  ⟨(t.entries.filter (·.1 != p)) ++ [(p,e)]⟩

def remove (t : FileTree) (p : FilePath) : FileTree := ⟨t.entries.filter (·.1 != p)⟩

/-- A directory with all those above it; none if one of them is a file. -/
def makeDirectories? (t : FileTree) (p : FilePath) : Option FileTree :=
  p.ancestry.foldlM
    (fun t q => match t.entryAt? q with
      | some .directory => some t
      | some (.file _) => none
      | none => some (t.put q .directory))
    t

def write? (t : FileTree) (p : FilePath) (contents : String) : Option FileTree :=
  if p.isEmpty || !t.isDirectory p.parent || t.isDirectory p then none
  else some (t.put p (.file contents))

/-- Renames a file over another file or to a free name, at once. -/
def rename? (t : FileTree) (source target : FilePath) : Option FileTree :=
  match t.contents? source with
  | none => none
  | some s =>
    if source = target then some t
    else ((t.remove source).write? target s)

def filesIn (t : FileTree) (p : FilePath) : List String :=
  t.entries.filterMap fun (q,_) => if q.parent = p then q.getLast? else none

/-- What lies below a directory, seen from there. -/
def below (t : FileTree) (p : FilePath) : FileTree :=
  ⟨t.entries.filterMap fun (q,e) =>
    (p.isPrefixOf? q).bind fun r => if r.isEmpty then none else some (r,e)⟩

/-- All paths, those of directories ending in a slash, in order. -/
def listing (t : FileTree) : List String :=
  (t.entries.map fun (p,e) => p.text ++ if e = .directory then "/" else "").mergeSort textLe

@[simp] theorem entryAt?_put (t : FileTree) {p : FilePath} (e : Entry) (h : p ≠ [])
    (hr : p ≠ FilePath.root) : (t.put p e).entryAt? p = some e := by
  have hl : (t.entries.filter (·.1 != p)).lookup p = none := by
    rw [List.lookup_eq_none_iff]
    intro q hq
    have := (List.mem_filter.mp hq).2
    simp only [bne_iff_ne,ne_eq] at this
    simp [Ne.symm this]
  simp [entryAt?,put,h,hr,List.lookup_append,hl]

end FileTree

end IndexTrial
