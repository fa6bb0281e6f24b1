import IndexTrial.Server.Link

/-! Opening a connection: its time limit for statements, and what the server can evict. -/

namespace IndexTrial

namespace ClientSettings

def target (s : ClientSettings) : String := s!"{s.host}:{s.port}/{s.database}"

def limitSql (s : ClientSettings) : String :=
  s!"SET statement_timeout = {s.statementTimeoutMs};"

end ClientSettings

def evictorSql : String := "SELECT 1 FROM pg_proc WHERE proname = 'pg_buffercache_evict_relation';"

namespace Link

variable {σ : Type}

def open? (l : Link σ) (s : ClientSettings) : StateM σ (Except String Unit) :=
  match ConnectionText.read? s.connectionText with
  | none => pure (.error "invalid connection string")
  | some pairs => l.dial pairs

/-- Whether the server can evict buffers; a failing answer says no. -/
def evictsBuffers (l : Link σ) (limitMs : Nat) : Talk σ Bool := do
  match ← (l.execute limitMs evictorSql).attempt with
  | .ok e => return !e.rows.isEmpty
  | .error _ => return false

def connect (l : Link σ) (s : ClientSettings) : Talk σ Bool := do
  match ← l.open? s with
  | .error detail => throw (.connection s!"{s.target}: {detail}")
  | .ok _ =>
    match ← l.send s.limitSql with
    | .error f => throw (.connection s!"cannot set statement_timeout: {f.message}")
    | .ok _ => l.evictsBuffers s.statementTimeoutMs

end Link

end IndexTrial
