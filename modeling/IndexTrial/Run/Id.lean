import IndexTrial.Json.Reader
import IndexTrial.Text.Search

/-!
Identities of runs: 128-bit numbers in the usual written forms of a UUID.
-/

namespace IndexTrial

structure RunId where
  value : Nat
  deriving DecidableEq, Inhabited, Repr

namespace RunId

/-- A random identity: of 128 random bits six are set to say that it is one. -/
def ofRandom (n : Nat) : RunId :=
  let high := n / 2 ^ 80 % 2 ^ 48
  let middle := n / 2 ^ 64 % 2 ^ 12
  let low := n % 2 ^ 62
  ⟨high * 2 ^ 80 + (4 * 2 ^ 12 + middle) * 2 ^ 64 + 2 ^ 63 + low⟩

def hexText (width n : Nat) : List Char :=
  (List.range width).map fun i => Binary64.hexDigit (n / 16 ^ (width - 1 - i) % 16)

/-- Groups of 8, 4, 4, 4 and 12 digits. -/
def hyphenated (id : RunId) : String :=
  let d := hexText 32 id.value
  String.ofList (d.take 8 ++ '-' :: (d.drop 8).take 4 ++ '-' :: (d.drop 12).take 4 ++
    '-' :: (d.drop 16).take 4 ++ '-' :: d.drop 20)

def ofDigits? (cs : List Char) : Option RunId := do
  let ns ← cs.mapM Json.hexValue?
  return ⟨ns.foldl (fun a n => 16 * a + n) 0⟩

def ofHyphenated? (cs : List Char) : Option RunId :=
  match splitAtChar '-' cs with
  | [a,b,c,d,e] =>
    if [a,b,c,d,e].map List.length = [8,4,4,4,12] then ofDigits? (a ++ b ++ c ++ d ++ e)
    else none
  | _ => none

/-- Hyphenated, without hyphens, in braces, or as a URN; the digits in any case. -/
def read? (text : String) : Option RunId :=
  let cs := text.toList
  if cs.length = 32 then ofDigits? cs
  else if cs.length = 36 then ofHyphenated? cs
  else if cs.length = 38 then
    match cs with
    | '\x7b' :: r => if r.getLast? = some '\x7d' then ofHyphenated? r.dropLast else none
    | _ => none
  else if cs.length = 45 then
    (("urn:uuid:".toList).isPrefixOf? cs).bind ofHyphenated?
  else none

end RunId

end IndexTrial
