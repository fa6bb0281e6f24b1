import IndexTrial.Files.Tree
import IndexTrial.Server.Link
import IndexTrial.Server.MemorySetting
import IndexTrial.Server.SegmentFiles

/-!
The client that asks a server over a link. Buffers are evicted by a function of the server, files by
a program that is run on the files of the relation.
-/

namespace IndexTrial

namespace Link

variable {σ : Type}

def evictRelation (l : Link σ) (s : ClientSettings) (evictsBuffers : Bool) (relation : String) :
    Talk σ Eviction := do
  if !evictsBuffers then return .unsupported "pg_buffercache_evict_relation() not installed"
  else
    let e ← l.execute s.statementTimeoutMs
      s!"SELECT buffers_evicted FROM pg_buffercache_evict_relation('{relation}'::regclass);"
    return .evicted ((e.scalar.bind (readUnsigned? 64)).getD 0)

def relationFiles (l : Link σ) (s : ClientSettings) (relation : String) :
    Talk σ (List String) := do
  let e ← l.execute s.statementTimeoutMs <|
    "SELECT current_setting('data_directory') || '/' || " ++
      s!"pg_relation_filepath('{relation}');"
  match e.scalar.bind splitPath? with
  | none => return []
  | some (directory,stem) =>
    match ← l.namesIn directory with
    | .error reason => throw (.evictionUnsupported s!"{directory}: {reason}")
    | .ok names => return (segmentFiles stem names).map (joinPath directory)

/-- The files, or why there are none to evict; a statement that ran too long is a fault. -/
def filesToEvict (l : Link σ) (s : ClientSettings) (relation : String) :
    Talk σ (Except String (List String)) := do
  match ← (l.relationFiles s relation).attempt with
  | .ok [] => return .error s!"no local data files for {relation}"
  | .ok files => return .ok files
  | .error (.evictionUnsupported m) => return .error m
  | .error (.queryFailed m) => return .error m
  | .error e => throw e

def evictFiles (l : Link σ) (s : ClientSettings) (relation : String) : Talk σ Eviction := do
  match s.evictCommand with
  | none => return .unsupported "OS eviction disabled"
  | some (program,arguments) =>
    match ← l.filesToEvict s relation with
    | .error reason => return .unsupported reason
    | .ok files =>
      match ← l.runProgram program (arguments ++ files) with
      | .error reason => return .unsupported s!"{program}: {reason}"
      | .ok e =>
        return if e.status.isSuccess then .evicted files.length
          else .unsupported (e.report program)

def readCapacity (l : Link σ) (s : ClientSettings) : Talk σ Nat := do
  let e ← l.execute s.statementTimeoutMs "SHOW shared_buffers;"
  let text := e.scalar.getD ""
  match readMemorySetting? text with
  | some n => return n
  | none => throw (.queryFailed s!"unparseable shared_buffers value '{text}'")

def client (l : Link σ) (s : ClientSettings) (evictsBuffers : Bool) : Client σ where
  answer
    | .execute sql => (l.execute s.statementTimeoutMs sql).run
    | .evictRelation relation => (l.evictRelation s evictsBuffers relation).run
    | .evictFiles relation => (l.evictFiles s relation).run
    | .readCapacity => (l.readCapacity s).run
  clock := l.clock

end Link

end IndexTrial
