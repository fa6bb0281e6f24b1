import IndexTrial.Server.Link

/-!
A link that gives answers known beforehand. What comes of a conversation is a function of the
answers alone, so a conversation that ran out of them can be held again once the next one is known:
the first request without an answer is remembered.
-/

namespace IndexTrial

inductive Request
  | dial (pairs : List (String × String))
  | query (sql : String)
  | namesIn (directory : String)
  | runProgram (program : String) (arguments : List String)
  | clock
  deriving DecidableEq, Repr

abbrev Request.Answer : Request → Type
  | .dial _ => Except String Unit
  | .query _ => Except LinkFault Reply
  | .namesIn _ => Except String (List String)
  | .runProgram _ _ => Except String ProgramEnd
  | .clock => Nat

structure Answered where
  request : Request
  answer : request.Answer

structure Transcript where
  /-- Answers still to be given, oldest first. -/
  ahead : List Answered
  /-- The first request without an answer. -/
  wanted : Option Request := none

namespace Transcript

/-- The answer of the next entry if it is one to the request; otherwise nothing is known any
more. -/
def ask (r : Request) : StateM Transcript (Option r.Answer) := fun t =>
  match t.ahead with
  | a :: rest =>
    if h : a.request = r then (some (h ▸ a.answer),{ t with ahead := rest })
    else (none,⟨[],t.wanted.or (some r)⟩)
  | [] => (none,⟨[],t.wanted.or (some r)⟩)

def askOr (r : Request) (default : r.Answer) : StateM Transcript r.Answer :=
  return (← ask r).getD default

/-- What is unknown fails. -/
def link : Link Transcript where
  dial pairs := askOr (.dial pairs) (.error "no answer")
  query sql := askOr (.query sql) (.error .closed)
  namesIn directory := askOr (.namesIn directory) (.error "no answer")
  runProgram program arguments := askOr (.runProgram program arguments) (.error "no answer")
  clock := askOr .clock 0

end Transcript

end IndexTrial
