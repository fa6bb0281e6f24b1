import IndexTrial.CommandLine.Command
import IndexTrial.Server.Transcript
import IndexTrial.Server.Wire
import Std.Async.DNS
import Std.Async.TCP
import Std.Time

/-!
The program: it hands the environment and the files that a command can touch to the library, answers
the requests of a conversation one by one over a socket, and writes back what changed.
-/

namespace IndexTrial

namespace Program

open Std.Async

def addFiles (t : FileTree) (path : FilePath) : IO FileTree :=
  path.ancestry.foldlM
    (fun t p => do
      try
        return t.put p (.file (← IO.FS.readFile p.text))
      catch _ => return t)
    t

def filesFor (arguments : List String) (vars : List (String × String)) : IO FileTree := do
  match Given.ofArguments arguments vars with
  | .error _ => return {}
  | .ok g =>
    let sources := (g.lookup "config").toList.map FilePath.read
    let t ← (sources ++ sources.flatMap fun p => (SourceFormat.withExtensions p).map (·.1)).foldlM
      addFiles {}
    match Command.settings g vars t with
    | .error _ => return t
    | .ok s =>
      ((g.lookup "update-baseline").toList ++ [s.paths.baseline,s.paths.resultsDirectory]).foldlM
        (fun t path => addFiles t (.read path)) t

def performStep : FileStep → IO Unit
  | .makeDirectories p => if p.isEmpty then pure () else IO.FS.createDirAll p.text
  | .create p => IO.FS.writeFile p.text ""
  | .append p text => do
    let h ← IO.FS.Handle.mk p.text .append
    h.putStr text
    h.flush
  | .sync _ => pure ()
  | .rename source target => IO.FS.rename source.text target.text

/-- Replaces every file that differs; the failure of the first that cannot be written. -/
def store (before after : FileTree) : IO (Option Failure) := do
  for (p,e) in after.entries do
    match e with
    | .directory => pure ()
    | .file text =>
      if before.contents? p != some text then
        for step in Baseline.replacement p text do
          try
            performStep step
          catch _ => return some (.resultsUnwritten p.text)
  return none

/-- The messages up to one that ends a turn, and whether the server still listens. -/
partial def receive (socket : TCP.Socket.Client) (ends : Wire.ServerMessage → Bool)
    (seen : List Wire.ServerMessage) (bytes : Bytes) : IO (List Wire.ServerMessage × Bool) := do
  let (ms,rest) := Wire.readAll bytes
  let seen := seen ++ ms
  if seen.any ends then return (seen,true)
  else
    match ← (socket.recv? 65536).block with
    | none => return (seen,false)
    | some chunk => receive socket ends seen (rest ++ chunk.toList)

def send (socket : TCP.Socket.Client) (bytes : Bytes) : IO Unit :=
  (socket.send ⟨bytes.toArray⟩).block

/-- Whether the server waits for the client, or has given up, after a message of the opening. -/
def endsOpening : Wire.ServerMessage → Bool
  | .ready | .passwordWanted | .authenticationUnknown | .failed _ _ => true
  | _ => false

partial def introduce (socket : TCP.Socket.Client) (pairs : List (String × String))
    (bytes : Bytes) : IO (Except String Unit) := do
  send socket bytes
  let (ms,_) ← receive socket endsOpening [] []
  match ms.find? endsOpening with
  | some .ready => return .ok ()
  | some (.failed _ m) => return .error m
  | some .passwordWanted =>
    introduce socket pairs (Wire.password ((pairs.lookup "password").getD ""))
  | some _ => return .error "authentication method not supported"
  | none => return .error "connection closed"

def dial (pairs : List (String × String)) : IO (Except String TCP.Socket.Client) := do
  let host := (pairs.lookup "host").getD ""
  let port := (((pairs.lookup "port").bind String.toNat?).getD 5432).toUInt16
  try
    for address in ← (DNS.getAddrInfo host port.toNat.repr).block do
      let socket ← TCP.Socket.Client.mk
      let target : Std.Net.SocketAddress := match address with
        | .v4 a => .v4 ⟨a,port⟩
        | .v6 a => .v6 ⟨a,port⟩
      try
        (socket.connect target).block
      catch _ => continue
      match ← introduce socket pairs (Wire.startup pairs) with
      | .ok _ => return .ok socket
      | .error m => return .error m
    return .error "connection refused"
  catch e => return .error e.toString

def nanosNow : IO Nat := do
  return (← Std.Time.Timestamp.now).toNanosecondsSinceUnixEpoch.val.toNat

def query (socket : TCP.Socket.Client) (sql : String) : IO (Except LinkFault Reply) := do
  let start ← nanosNow
  try
    send socket (Wire.query sql)
    let (ms,listens) ← receive socket (· == .ready) [] []
    let stop ← nanosNow
    match Wire.outcome ms with
    | .ok rows => return if listens then .ok ⟨stop - start,rows⟩ else .error .closed
    | .error f => return .error f
  catch _ => return .error .closed

def namesIn (directory : String) : IO (Except String (List String)) := do
  try
    let entries ← (← IO.FS.realPath directory).readDir
    return .ok (entries.toList.map (·.fileName))
  catch _ => return .error "No such file or directory (os error 2)"

/-- Answers a request; programs cannot be run from here. -/
def answer (connection : IO.Ref (Option TCP.Socket.Client)) : (r : Request) → IO r.Answer
  | .dial pairs => do
    match ← dial pairs with
    | .ok socket =>
      connection.set (some socket)
      return .ok ()
    | .error m => return .error m
  | .query sql => do
    match ← connection.get with
    | some socket => query socket sql
    | none => return .error .closed
  | .namesIn directory => namesIn directory
  | .runProgram _ _ => return .error "Function not implemented (os error 38)"
  | .clock => nanosNow

partial def converse {α : Type} (connection : IO.Ref (Option TCP.Socket.Client))
    (talk : StateM Transcript α) (known : Array Answered) : IO α := do
  let (result,t) := talk ⟨known.toList,none⟩
  match t.wanted with
  | none => return result
  | some r => converse connection talk (known.push ⟨r,← answer connection r⟩)

def run (arguments : List String) : IO UInt32 := do
  let vars := (← Std.Internal.UV.System.osEnviron).toList
  let files ← filesFor arguments vars
  let random ← IO.getRandomBytes 16
  let id := RunId.ofRandom (Wire.valueOf random.toList)
  let connection ← IO.mkRef none
  let (ended,after) ← converse connection
    (Command.run Transcript.link arguments vars id files) #[]
  if let some socket ← connection.get then
    try send socket Wire.terminate catch _ => pure ()
  let complaint := ended.complaint.or ((← store files after).map .failure)
  IO.print ended.output
  match complaint with
  | none => return 0
  | some c =>
    IO.eprintln c.text
    return c.status.toUInt32

end Program

end IndexTrial

def main (arguments : List String) : IO UInt32 := IndexTrial.Program.run arguments
