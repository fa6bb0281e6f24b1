import IndexTrial.Text.Case

/-! The cache states in which a query can be measured. -/

namespace IndexTrial

inductive CacheMode
  /-- The query has just run once. -/
  | hot
  /-- Written back and replanned, the buffers left as they are. -/
  | warm
  /-- Nothing of the relation in the buffers or in the page cache. -/
  | cold
  deriving DecidableEq, Inhabited, Repr

namespace CacheMode

def name : CacheMode → String
  | hot => "hot"
  | warm => "warm"
  | cold => "cold"

def named : List (String × CacheMode) := [("hot",hot),("warm",warm),("cold",cold)]

theorem named_name (m : CacheMode) : named.lookup m.name = some m := by cases m <;> rfl

def read? (text : String) : Option CacheMode := named.lookup (lowered text)

def unknownMessage (text : String) : String :=
  s!"Unknown cache mode: {text}. Use 'hot', 'warm' or 'cold'"

/-- Position in the order of baseline keys. -/
def rank : CacheMode → Nat
  | hot => 0
  | warm => 1
  | cold => 2

end CacheMode

end IndexTrial
