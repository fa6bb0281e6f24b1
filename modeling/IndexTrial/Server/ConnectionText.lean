import IndexTrial.Binary64.Spelling
import IndexTrial.Settings.Basic
import IndexTrial.Text.Blank
import IndexTrial.Text.Search

/-!
The text that asks for a connection: `keyword=value` pairs with white space between them. A value
may be quoted, and a backslash takes the next character as it is. The settings are put into such a
text as they are, so a blank or an opening quote in one of them changes what the text says.
-/

namespace IndexTrial

def ClientSettings.connectionText (s : ClientSettings) : String :=
  let password := s.password.getD ""
  s!"host={s.host} port={s.port} user={s.user} dbname={s.database} " ++
    s!"password={password} application_name=indexbench"

namespace ConnectionText

/-- A value in quotes, after the first of them. -/
def quotedValue? : List Char → Option (List Char × List Char)
  | [] => none
  | '\'' :: r => some ([],r)
  | '\\' :: c :: r => (quotedValue? r).map fun (v,r) => (c :: v,r)
  | c :: r => (quotedValue? r).map fun (v,r) => (c :: v,r)

def plainValue : List Char → List Char × List Char
  | [] => ([],[])
  | '\\' :: c :: r =>
    let (v,rest) := plainValue r
    (c :: v,rest)
  | c :: r =>
    if isBlank c then ([],c :: r)
    else
      let (v,rest) := plainValue r
      (if c = '\\' && r.isEmpty then v else c :: v,rest)

/-- A value; without quotes it is not empty. -/
def value? : List Char → Option (List Char × List Char)
  | '\'' :: r => quotedValue? r
  | cs =>
    let (v,r) := plainValue cs
    if v.isEmpty then none else some (v,r)

/-- The pairs of a text. The fuel is at least its length. -/
def pairs? : Nat → List Char → Option (List (String × String))
  | 0, _ => none
  | fuel + 1, cs =>
    let cs := trimBlankStart cs
    let keyword := cs.takeWhile fun c => !isBlank c && c ≠ '='
    if keyword.isEmpty then some []
    else
      match trimBlankStart (cs.drop keyword.length) with
      | '=' :: r => do
        let (v,r) ← value? (trimBlankStart r)
        let rest ← pairs? fuel r
        return (String.ofList keyword,String.ofList v) :: rest
      | _ => none

inductive ValueKind
  | any
  | oneOf (words : List String)
  | number (bits : Nat)
  | signed
  | ports

def keywords : List (String × ValueKind) :=
  [("user",.any),("password",.any),("dbname",.any),("options",.any),
    ("application_name",.any),("host",.any),("hostaddr",.any),
    ("sslmode",.oneOf ["disable","prefer","require"]),
    ("sslnegotiation",.oneOf ["postgres","direct"]),("port",.ports),
    ("connect_timeout",.signed),("tcp_user_timeout",.signed),("keepalives",.number 64),
    ("keepalives_idle",.signed),("keepalives_interval",.signed),
    ("keepalives_retries",.number 32),
    ("target_session_attrs",.oneOf ["any","read-write","read-only"]),
    ("channel_binding",.oneOf ["disable","prefer","require"]),
    ("load_balance_hosts",.oneOf ["disable","random"])]

def ports? (value : String) : Option (List Nat) :=
  (splitText ',' value).mapM fun p => if p.isEmpty then some 5432 else readUnsigned? 16 p

def ValueKind.accepts (value : String) : ValueKind → Bool
  | any => true
  | oneOf ws => ws.contains value
  | number bits => (readUnsigned? bits value).isSome
  | signed => (readSigned? value).isSome
  | ports => (ports? value).isSome

def listed (keyword : String) (pairs : List (String × String)) : List String :=
  pairs.flatMap fun (k,v) => if k = keyword then splitText ',' v else []

/-- Whether there is a port for each host, or one for all. -/
def hasPorts (pairs : List (String × String)) : Bool :=
  let ports := (listed "port" pairs).length
  ports ≤ 1 || ports == (listed "host" pairs).length

/-- What the opening message tells the server. -/
def announced : List String := ["user","dbname","options","application_name"]

/-- Whether an opening message can hold the pairs: a zero character ends a text in it. -/
def isSendable (pairs : List (String × String)) : Bool :=
  pairs.all fun (k,v) => !(announced.contains k && v.toList.contains (Char.ofNat 0))

def read? (text : String) : Option (List (String × String)) := do
  let pairs ← pairs? (text.length + 1) text.toList
  let known := pairs.all fun (k,v) => (keywords.lookup k).any (·.accepts v)
  if known && hasPorts pairs && isSendable pairs then some pairs else none

end ConnectionText

end IndexTrial
