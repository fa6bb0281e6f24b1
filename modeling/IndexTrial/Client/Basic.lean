import IndexTrial.Binary64.Rounding
import IndexTrial.Fault
import IndexTrial.Moment

/-!
The database under test as a client that answers calls. A client is any function of the call and
of a state of its own, together with a clock; a session is a computation that talks to a client and
keeps a log of all exchanges. An error of a session carries a fault and keeps the log.
-/

namespace IndexTrial

structure Execution where
  durationMs : Binary64
  rows : List (List (Option String))
  deriving DecidableEq, Inhabited, Repr

def Execution.scalar (e : Execution) : Option String := (e.rows.head?.bind List.head?).join

/-- What came of a request to evict. `evicted 0` says that nothing was resident. -/
inductive Eviction
  | evicted (count : Nat)
  | unsupported (reason : String)
  deriving DecidableEq, Inhabited, Repr

inductive Call
  | execute (sql : String)
  | evictRelation (relation : String)
  | evictFiles (relation : String)
  /-- Size of the buffer pool in bytes. -/
  | readCapacity
  deriving DecidableEq, Repr

abbrev Call.Answer : Call → Type
  | .execute _ => Execution
  | .evictRelation _ => Eviction
  | .evictFiles _ => Eviction
  | .readCapacity => Nat

/-- A client over states `σ`. The clock gives nanoseconds since 1970 and need not be monotone. -/
structure Client (σ : Type) where
  answer : (c : Call) → σ → Except Fault c.Answer × σ
  clock : σ → Nat × σ

structure Exchange where
  call : Call
  reply : Except Fault call.Answer

def Exchange.isLost (e : Exchange) : Bool :=
  match e.reply with
  | .error f => f.isFatal
  | .ok _ => false

/-- The state of the client and the exchanges so far, oldest first. -/
structure World (σ : Type) where
  state : σ
  log : Array Exchange := #[]

def World.calls {σ : Type} (w : World σ) : List Call := w.log.toList.map (·.call)

def Session (σ α : Type) : Type := Client σ → World σ → Except Fault α × World σ

namespace Session

variable {σ α β : Type}

def succeed (a : α) : Session σ α := fun _ w => (.ok a,w)

def fail (e : Fault) : Session σ α := fun _ w => (.error e,w)

def andThen (x : Session σ α) (f : α → Session σ β) : Session σ β := fun c w =>
  match x c w with
  | (.ok a,w) => f a c w
  | (.error e,w) => (.error e,w)

instance : Monad (Session σ) where
  pure := succeed
  bind := andThen

theorem pure_run (a : α) (c : Client σ) (w : World σ) :
    (pure a : Session σ α) c w = (.ok a,w) := rfl

theorem bind_run (x : Session σ α) (f : α → Session σ β) (c : Client σ) (w : World σ) :
    (x >>= f) c w = match x c w with
      | (.ok a,w) => f a c w
      | (.error e,w) => (.error e,w) := rfl

def ask (call : Call) : Session σ call.Answer := fun c w =>
  let (reply,state) := c.answer call w.state
  (reply,⟨state,w.log.push ⟨call,reply⟩⟩)

def execute (sql : String) : Session σ Execution := ask (.execute sql)

/-- Hands over an error as a value, unless the connection is lost. -/
def attempt (x : Session σ α) : Session σ (Except Fault α) := fun c w =>
  match x c w with
  | (.ok a,w) => (.ok (.ok a),w)
  | (.error e,w) => if e.isFatal then (.error e,w) else (.ok (.error e),w)

/-- The value if there is one; every error is passed over, a lost connection included. -/
def attemptAny (x : Session σ α) : Session σ (Option α) := fun c w =>
  match x c w with
  | (.ok a,w) => (.ok (some a),w)
  | (.error _,w) => (.ok none,w)

def mapFault (f : Fault → Fault) (x : Session σ α) : Session σ α := fun c w =>
  match x c w with
  | (.ok a,w) => (.ok a,w)
  | (.error e,w) => (.error (f e),w)

def collect (f : α → Session σ β) : List α → Session σ (List β)
  | [] => pure []
  | a :: as => do
    let b ← f a
    let bs ← collect f as
    return b :: bs

def readClock : Session σ Nat := fun c w =>
  let (t,state) := c.clock w.state
  (.ok t,⟨state,w.log⟩)

def now : Session σ Moment := do
  let t ← readClock
  return .ofNanos t

/-- The whole session with a client whose state is at hand. -/
def on (x : Session σ α) (c : Client σ) : StateM σ (Except Fault α) := fun state =>
  let (reply,w) := x c ⟨state,#[]⟩
  (reply,w.state)

end Session

end IndexTrial
