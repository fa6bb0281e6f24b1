import IndexTrial.Text.Blank
import IndexTrial.Text.Search

/-!
The statements that a rehearsal database understands, read off the text of a call. Everything else
is taken note of without an effect.
-/

namespace IndexTrial

inductive Statement
  | hasRelation (relation : String)
  | countRows (table : String)
  | indexSize (index : String)
  | createTable (table : String)
  | dropTable (table : String)
  | createIndex (index table engine : String)
  | dropIndex (index : String)
  | showVersion
  | showWorkers
  | select
  | other
  deriving DecidableEq, Repr

namespace Statement

def upTo (stop : Char) (text : String) : String :=
  String.ofList (text.toList.takeWhile (· ≠ stop))

def firstWord (text : String) : String := (words text).headD ""

/-- The text without white space around it and without semicolons at its end. -/
def bare (sql : String) : String :=
  String.ofList (((trimmed sql).toList.reverse.dropWhile (· = ';')).reverse)

def firstOf (text : String) : List (String × (String → Option Statement)) → Statement
  | [] => other
  | (lead,read) :: rest =>
    match (afterLead? lead text).bind read with
    | some s => s
    | none => firstOf text rest

/-- An index, its table and its engine: `<index> ON <table> USING <engine>(…`. -/
def readCreateIndex (text : String) : Option Statement :=
  match words text with
  | index :: _ :: table :: _ :: method :: _ => some (createIndex index table (upTo '(' method))
  | _ => none

def forms : List (String × (String → Option Statement)) :=
  [("SELECT to_regclass('",fun r => some (hasRelation (upTo '\'' r))),
    ("SELECT count(*) FROM ",fun r => if r.toList.contains ' ' then none else some (countRows r)),
    ("SELECT pg_relation_size('",fun r => some (indexSize (upTo '\'' r))),
    ("CREATE UNLOGGED TABLE ",fun r => some (createTable (firstWord r))),
    ("DROP TABLE IF EXISTS ",fun r => some (dropTable (firstWord r))),
    ("CREATE INDEX ",readCreateIndex),
    ("DROP INDEX IF EXISTS ",fun r => some (dropIndex (firstWord r))),
    ("SHOW server_version",fun r => if r.isEmpty then some showVersion else none),
    ("SHOW max_parallel_workers_per_gather",fun r =>
      if r.isEmpty then some showWorkers else none),
    ("SELECT",fun _ => some select)]

def read (sql : String) : Statement := firstOf (bare sql) forms

end Statement

end IndexTrial
