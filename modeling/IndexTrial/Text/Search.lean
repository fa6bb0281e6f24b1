/-!
Occurrences of one text in another: test, replacement, and the two sides of the first one.
-/

namespace IndexTrial

/-- Replaces the occurrences of a pattern from left to right, never inside a replacement. While
`skip` is positive the characters of an occurrence are passed over. -/
def replaceFrom (pattern replacement : List Char) (skip : Nat) : List Char → List Char
  | [] => []
  | c :: cs =>
    match skip with
    | k + 1 => replaceFrom pattern replacement k cs
    | 0 =>
      if !pattern.isEmpty && pattern.isPrefixOf (c :: cs) then
        replacement ++ replaceFrom pattern replacement (pattern.length - 1) cs
      else c :: replaceFrom pattern replacement 0 cs

def replaceText (pattern replacement text : String) : String :=
  String.ofList (replaceFrom pattern.toList replacement.toList 0 text.toList)

def occursIn (pattern : List Char) : List Char → Bool
  | [] => pattern.isEmpty
  | c :: cs => pattern.isPrefixOf (c :: cs) || occursIn pattern cs

def hasText (text pattern : String) : Bool := occursIn pattern.toList text.toList

def startsWithText (text lead : String) : Bool := lead.toList.isPrefixOf text.toList

def afterLead? (lead text : String) : Option String :=
  (lead.toList.isPrefixOf? text.toList).map String.ofList

/-- The parts between separators, empty ones included. -/
def splitAtChar (separator : Char) : List Char → List (List Char)
  | [] => [[]]
  | c :: cs =>
    if c = separator then [] :: splitAtChar separator cs
    else match splitAtChar separator cs with
      | [] => [[c]]
      | part :: parts => (c :: part) :: parts

def splitText (separator : Char) (text : String) : List String :=
  (splitAtChar separator text.toList).map String.ofList

/-- The order of texts by their UTF-8 bytes, which is the order by code points. -/
def textLe (a b : String) : Bool := decide (a ≤ b)

end IndexTrial
