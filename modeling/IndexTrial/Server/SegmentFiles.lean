import IndexTrial.Text.Search

/-!
The files of a relation: the main one and the segments numbered after it, in one directory.
-/

namespace IndexTrial

/-- The name itself, or the name with a dot and digits behind it. -/
def isSegmentOf (stem name : String) : Bool :=
  name == stem || (afterLead? (stem ++ ".") name).any fun number => number.toList.all Char.isDigit

def segmentFiles (stem : String) (names : List String) : List String :=
  (names.filter (isSegmentOf stem)).mergeSort textLe

theorem mem_segmentFiles {stem name : String} {names : List String} :
    name ∈ segmentFiles stem names ↔ name ∈ names ∧ isSegmentOf stem name = true := by
  simp [segmentFiles,List.mem_mergeSort]

/-- Parts of a path without the empty ones and the dots at its end. -/
def withoutIdleEnd (parts : List String) : List String :=
  (parts.reverse.dropWhile fun p => p = "" || p = ".").reverse

/-- The directory and the name of a written path; a path that ends in `..` or is a root has no
name. -/
def splitPath? (path : String) : Option (String × String) :=
  match splitText '/' path with
  | [] => none
  | first :: rest =>
    let rest := withoutIdleEnd rest
    match rest.getLast? with
    | none => if ["",".",".."].contains first then none else some ("",first)
    | some ".." => none
    | some name =>
      let above := withoutIdleEnd rest.dropLast
      if above.isEmpty && first = "" then some ("/",name)
      else some ("/".intercalate (first :: above),name)

end IndexTrial
