import IndexTrial.Server.Link

/-!
The messages between client and server as bytes: a letter, the length of the rest, and the rest;
only the opening message has no letter. Numbers are big-endian, texts end in a zero byte.
-/

namespace IndexTrial

abbrev Bytes := List UInt8

namespace Wire

def bigEndian : Nat → Nat → Bytes
  | 0, _ => []
  | n + 1, value => UInt8.ofNat (value / 256 ^ n) :: bigEndian n value

def valueOf (bytes : Bytes) : Nat := bytes.foldl (fun v b => 256 * v + b.toNat) 0

def zeroText (text : String) : Bytes := text.toUTF8.toList ++ [0]

def message (letter : Char) (body : Bytes) : Bytes :=
  letter.toUInt8 :: bigEndian 4 (body.length + 4) ++ body

/-- What the server calls the keywords that it is told. -/
def startupNames : List (String × String) :=
  [("user","user"),("dbname","database"),("options","options"),
    ("application_name","application_name")]

/-- Opens a conversation in version 3.0 of the protocol. -/
def startup (pairs : List (String × String)) : Bytes :=
  let told := pairs.filterMap fun (k,v) => (startupNames.lookup k).map (·,v)
  let body := bigEndian 4 196608 ++
    (told ++ [("client_encoding","UTF8")]).flatMap (fun (k,v) => zeroText k ++ zeroText v) ++ [0]
  bigEndian 4 (body.length + 4) ++ body

def password (text : String) : Bytes := message 'p' (zeroText text)
def query (sql : String) : Bytes := message 'Q' (zeroText sql)
def terminate : Bytes := message 'X' []

inductive ServerMessage
  | authenticated
  | passwordWanted
  /-- A way to show who one is that is not known here. -/
  | authenticationUnknown
  | row (cells : List (Option String))
  | failed (code message : String)
  | ready
  | other
  deriving DecidableEq, Repr

def textOf (bytes : Bytes) : String := (String.fromUTF8? ⟨bytes.toArray⟩).getD ""

def errorFields : Nat → Bytes → List (Char × String)
  | 0, _ => []
  | fuel + 1, bytes =>
    match bytes with
    | [] => []
    | letter :: rest =>
      if letter = 0 then []
      else
        let text := rest.takeWhile (· ≠ 0)
        (Char.ofUInt8 letter,textOf text) :: errorFields fuel (rest.drop (text.length + 1))

/-- So many cells; a length of all ones says that there is no value. -/
def cells : Nat → Bytes → List (Option String)
  | 0, _ => []
  | n + 1, bytes =>
    let length := valueOf (bytes.take 4)
    let rest := bytes.drop 4
    if length = 2 ^ 32 - 1 then none :: cells n rest
    else some (textOf (rest.take length)) :: cells n (rest.drop length)

def ServerMessage.ofBody (letter : Char) (body : Bytes) : ServerMessage :=
  match letter with
  | 'R' =>
    match valueOf (body.take 4) with
    | 0 => authenticated
    | 3 => passwordWanted
    | _ => authenticationUnknown
  | 'D' => row (cells (valueOf (body.take 2)) (body.drop 2))
  | 'E' =>
    let fields := errorFields body.length body
    failed ((fields.lookup 'C').getD "") ((fields.lookup 'M').getD "")
  | 'Z' => ready
  | _ => other

def read? (bytes : Bytes) : Option (ServerMessage × Bytes) :=
  match bytes with
  | letter :: rest =>
    let length := valueOf (rest.take 4)
    if rest.length < 4 || rest.length < length then none
    else
      some (.ofBody (Char.ofUInt8 letter) ((rest.take length).drop 4),rest.drop (max 4 length))
  | [] => none

theorem length_of_read? {bytes rest : Bytes} {m : ServerMessage}
    (h : read? bytes = some (m,rest)) : rest.length < bytes.length := by
  unfold read? at h
  split at h
  · dsimp only at h
    split at h
    · simp at h
    · simp only [Option.some.injEq,Prod.mk.injEq] at h
      rw [← h.2,List.length_drop,List.length_cons]
      omega
  · simp at h

def readAll (bytes : Bytes) : List ServerMessage × Bytes :=
  match h : read? bytes with
  | none => ([],bytes)
  | some (m,rest) =>
    have := length_of_read? h
    let (ms,rest) := readAll rest
    (m :: ms,rest)
  termination_by bytes.length

/-- What a statement brought, from the messages up to the one that the server is ready. -/
def outcome (ms : List ServerMessage) : Except LinkFault Rows :=
  match ms.findSome? fun | .failed code m => some (code,m) | _ => none with
  | some (code,m) => .error (.reported code m)
  | none => .ok (ms.filterMap fun | .row cells => some cells | _ => none)

end Wire

end IndexTrial
