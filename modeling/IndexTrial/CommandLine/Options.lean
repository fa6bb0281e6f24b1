import IndexTrial.Binary64.Spelling
import IndexTrial.Settings.Basic
import IndexTrial.Text.Search

/-!
The options of the command line. One table says which there are; it drives the reading of the
arguments and the help. An option may be given once. Some take their value from an environment
variable if they are not given.
-/

namespace IndexTrial

inductive OptionValue
  | text
  | path
  | port
  | seconds
  deriving DecidableEq, Repr

def OptionValue.accepts (value : String) : OptionValue → Bool
  | text => true
  | path => !value.isEmpty
  | port => (readSigned? value).any fun i => decide (0 ≤ i ∧ i < 2 ^ 16)
  | seconds => (readUnsigned? 64 value).isSome

structure OptionRule where
  name : String
  /-- What the value is called, and what it may be; a switch has no value. -/
  value : Option (String × OptionValue) := none
  fallback : Option String := none
  hidesFallback : Bool := false
  purpose : String
  deriving Repr

def OptionRule.accepts (r : OptionRule) (value : String) : Bool :=
  r.value.all fun v => v.2.accepts value

def optionRules : List OptionRule :=
  [{ name := "quick"
     purpose := "Reduced workload subset at the tier's smallest row count (default)" },
    { name := "full", purpose := "Core workloads at every row count of the detected tier" },
    { name := "update-baseline", value := some ("RESULTS_JSON",.path)
      purpose := "Replace the baseline with the candidate results of a saved run, then exit" },
    { name := "config", value := some ("FILE",.text)
      purpose := "Configuration file (YAML, TOML or JSON)" },
    { name := "print-config", purpose := "Print the effective configuration as TOML and exit" },
    { name := "host", value := some ("HOST",.text), fallback := some "PGHOST"
      purpose := "Database host" },
    { name := "port", value := some ("PORT",.port), fallback := some "PGPORT"
      purpose := "Database port" },
    { name := "user", value := some ("USER",.text), fallback := some "PGUSER"
      purpose := "Database user" },
    { name := "dbname", value := some ("DBNAME",.text), fallback := some "PGDATABASE"
      purpose := "Database name" },
    { name := "password", value := some ("PASSWORD",.text), fallback := some "PGPASSWORD"
      hidesFallback := true, purpose := "Password (prefer the PGPASSWORD env var)" },
    { name := "budget-secs", value := some ("SECS",.seconds)
      purpose := "Override the tier's wall-clock budget (seconds)" },
    { name := "no-reuse"
      purpose := "Regenerate tables even when they already hold data, and drop them afterwards" },
    { name := "no-progress", purpose := "Disable the progress bar" }]

def optionConflicts : List (String × String) :=
  [("quick","full"),("update-baseline","quick"),("update-baseline","full")]

inductive Misuse
  | unexpected (argument : String)
  | repeated (option : String)
  | missingValue (option : String)
  | surplusValue (option value : String)
  | invalidValue (option value : String)
  | conflict (option other : String)
  deriving DecidableEq, Repr

def Misuse.message : Misuse → String
  | unexpected a => s!"unexpected argument '{a}' found"
  | repeated o => s!"the argument '--{o}' cannot be used multiple times"
  | missingValue o => s!"a value is required for '--{o}' but none was supplied"
  | surplusValue o v => s!"unexpected value '{v}' for '--{o}' found; no more were expected"
  | invalidValue o v => s!"invalid value '{v}' for '--{o}'"
  | conflict o other => s!"the argument '--{o}' cannot be used with '--{other}'"

/-- What arguments can ask for instead of a command, or why they are none. -/
inductive Detour
  | help
  | version
  | misuse (m : Misuse)
  deriving DecidableEq, Repr

/-- The options given, by name; the value of a switch is empty. -/
abbrev Given := List (String × String)

namespace Given

def has (g : Given) (name : String) : Bool := (g.lookup name).isSome

def give (g : Given) (r : OptionRule) (value : String) : Except Detour Given :=
  if g.has r.name then .error (.misuse (.repeated r.name))
  else if r.accepts value then .ok (g ++ [(r.name,value)])
  else .error (.misuse (.invalidValue r.name value))

/-- No option waits for its value. -/
def settle : Option OptionRule → Except Detour Unit
  | none => .ok ()
  | some r => .error (.misuse (.missingValue r.name))

def splitAttached (text : String) : String × Option String :=
  let cs := text.toList
  let name := cs.takeWhile (· ≠ '=')
  match cs.drop name.length with
  | [] => (text,none)
  | _ :: value => (String.ofList name,some (String.ofList value))

/-- A long option: the options given now, and the one that waits for its value. -/
def long (g : Given) (text : String) : Except Detour (Given × Option OptionRule) :=
  let (name,attached) := splitAttached text
  match optionRules.find? (·.name = name), attached with
  | some r, none => if r.value.isSome then .ok (g,some r) else (g.give r "").map (·,none)
  | some r, some v =>
    if r.value.isSome then (g.give r v).map (·,none)
    else .error (.misuse (.surplusValue name v))
  | none, none =>
    if name = "help" then .error .help
    else if name = "version" then .error .version
    else .error (.misuse (.unexpected ("--" ++ text)))
  | none, some _ => .error (.misuse (.unexpected ("--" ++ text)))

/-- Options of one letter; none of them lets a command go on. -/
def short (text : String) : Detour :=
  match text.toList with
  | 'h' :: _ => .help
  | 'V' :: _ => .version
  | _ => .misuse (.unexpected ("-" ++ text))

def read (g : Given) : Option OptionRule → List String → Except Detour Given
  | waiting, [] => do
    settle waiting
    return g
  | waiting, a :: as =>
    match afterLead? "-" a with
    | some "-" => do
      settle waiting
      match as with
      | [] => return g
      | b :: _ => .error (.misuse (.unexpected b))
    | some "" | none =>
      match waiting with
      | some r => do
        let g ← g.give r a
        read g none as
      | none => .error (.misuse (.unexpected a))
    | some body => do
      settle waiting
      match afterLead? "-" body with
      | some text =>
        let (g,waiting) ← g.long text
        read g waiting as
      | none => .error (short body)

def checked (g : Given) : Except Detour Given :=
  match optionConflicts.find? fun c => g.has c.1 && g.has c.2 with
  | some c => .error (.misuse (.conflict c.1 c.2))
  | none => .ok g

def withFallback (vars : List (String × String)) (g : Given) (r : OptionRule) :
    Except Detour Given :=
  match r.fallback.bind (vars.lookup ·) with
  | none => .ok g
  | some v => if g.has r.name then .ok g else g.give r v

def ofArguments (arguments : List String) (vars : List (String × String)) :
    Except Detour Given := do
  let g ← read [] none arguments
  let g ← g.checked
  optionRules.foldlM (withFallback vars) g

end Given

namespace Settings

def withOptions (s : Settings) (g : Given) : Settings :=
  let text (name default : String) := (g.lookup name).getD default
  { s with
    database := { s.database with
      host := text "host" s.database.host
      port := ((g.lookup "port").bind readSigned?).elim s.database.port Int.toNat
      user := text "user" s.database.user
      name := text "dbname" s.database.name
      password := (g.lookup "password").or s.database.password }
    run := { s.run with
      reuseData := s.run.reuseData && !g.has "no-reuse"
      budgetSeconds := ((g.lookup "budget-secs").bind (readUnsigned? 64)).or s.run.budgetSeconds } }

end Settings

end IndexTrial
