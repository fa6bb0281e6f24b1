import IndexTrial.Client.Catalog
import IndexTrial.Measure.Query

/-!
Bringing a relation to a cache mode. Hot runs the query once; warm writes back and drops plans;
cold evicts the relation from the buffers and its files from the page cache. What cannot be done
leaves a note; only a lost connection, or the hot query itself, fails.
-/

namespace IndexTrial

namespace Caching

variable {σ : Type}

/-- A statement whose failure leaves a note. -/
def noting (p : Preparation) (note sql : String) : Session σ Preparation := do
  match ← (Session.execute sql).attempt with
  | .ok _ => return p
  | .error _ => return p.note note

/-- Without eviction of the buffers a checkpoint has to do. -/
def degrade (p : Preparation) : Session σ Preparation := do
  let _ ← (Session.execute "CHECKPOINT;").attempt
  return p.note Preparation.degradedEviction

def evictBuffers (relation : String) : Session σ Preparation := do
  match ← (Session.ask (.evictRelation relation)).attempt with
  | .ok (.evicted n) => return { buffersEvicted := some n }
  | _ => degrade {}

def evictPages (relation : String) (p : Preparation) : Session σ Preparation := do
  match ← (Session.ask (.evictFiles relation)).attempt with
  | .ok (.evicted n) => return { p with filesEvicted := some n }
  | _ => return p.note Preparation.filesNotEvicted

def prepareCold (evictFiles : Bool) (relation : String) : Session σ Preparation := do
  let p ← evictBuffers relation
  if evictFiles then evictPages relation p
  else return p.note Preparation.filesNotEvicted

/-- Brings a relation to a mode before `sql` is measured. -/
def prepare (evictFiles : Bool) (relation : String) (mode : CacheMode) (sql : String) :
    Session σ Preparation :=
  match mode with
  | .hot => do
    let _ ← Session.execute sql
    return { primed := true }
  | .warm => do
    let p ← noting {} Preparation.warmIncomplete "CHECKPOINT;"
    noting p Preparation.warmIncomplete "DISCARD PLANS;"
  | .cold => prepareCold evictFiles relation

/-- Brings an index and its table to the mode of a query. An index-only scan may still touch the
table through its visibility map, so for a cold query the table is evicted too. -/
def prepareQuery (evictFiles : Bool) (index table : String) (q : Query) :
    Session σ Preparation := do
  let p ← prepare evictFiles index q.mode q.sql
  if q.mode = .cold then
    let heap ← prepareCold evictFiles table
    return { p with annotations := addNotes p.annotations heap.annotations }
  else return p

end Caching

end IndexTrial
