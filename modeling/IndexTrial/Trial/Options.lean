import IndexTrial.Run.Outcome

/-! What an execution needs to know besides the client and the workload. -/

namespace IndexTrial

structure TrialOptions where
  engines : EnginePair := ⟨"btree","smol"⟩
  /-- Use a table that already has rows, and keep tables afterwards. -/
  reuseData : Bool := true
  /-- Evict files from the page cache for cold queries. -/
  evictFiles : Bool := true
  deriving DecidableEq, Repr

end IndexTrial
