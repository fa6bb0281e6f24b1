import IndexTrial.Client.Basic
import IndexTrial.Rehearsal.Statement

/-!
The tables of a rehearsal database and the indexes on them. An index belongs to a table and goes
with it; the newest index is the one that queries are taken to use.
-/

namespace IndexTrial

structure StoredIndex where
  name : String
  table : String
  engine : String
  deriving DecidableEq, Repr

/-- Tables with their row counts, and indexes, the newest last. -/
structure Store where
  tables : List (String × Nat) := []
  indexes : List StoredIndex := []
  deriving DecidableEq, Inhabited, Repr

namespace Store

def rows? (s : Store) (table : String) : Option Nat := s.tables.lookup table

def index? (s : Store) (name : String) : Option StoredIndex :=
  s.indexes.find? (·.name == name)

def newest? (s : Store) : Option StoredIndex := s.indexes.getLast?

def hasRelation (s : Store) (name : String) : Bool :=
  (s.rows? name).isSome || (s.index? name).isSome

def createTable (s : Store) (table : String) (rows : Nat) : Store :=
  { s with tables := (s.tables.filter (·.1 != table)) ++ [(table,rows)] }

/-- The indexes of the table go with it. -/
def dropTable (s : Store) (table : String) : Store where
  tables := s.tables.filter (·.1 != table)
  indexes := s.indexes.filter (·.table != table)

def createIndex (s : Store) (i : StoredIndex) : Store :=
  { s with indexes := (s.indexes.filter (·.name != i.name)) ++ [i] }

def dropIndex (s : Store) (name : String) : Store :=
  { s with indexes := s.indexes.filter (·.name != name) }

def noRelation (table : String) : Fault := .queryFailed s!"relation \"{table}\" does not exist"

/-- The effect of a statement; a new table gets `rows` rows. -/
def apply (s : Store) (rows : Nat) : Statement → Except Fault Store
  | .createTable table => .ok (s.createTable table rows)
  | .dropTable table => .ok (s.dropTable table)
  | .createIndex index table engine =>
    if (s.rows? table).isSome then .ok (s.createIndex ⟨index,table,engine⟩)
    else .error (noRelation table)
  | .dropIndex index => .ok (s.dropIndex index)
  | .countRows table => if (s.rows? table).isSome then .ok s else .error (noRelation table)
  | _ => .ok s

@[simp] theorem rows?_createTable (s : Store) (table : String) (rows : Nat) :
    (s.createTable table rows).rows? table = some rows := by
  have h : (s.tables.filter (·.1 != table)).lookup table = none := by
    rw [List.lookup_eq_none_iff]
    intro p hp
    have := (List.mem_filter.mp hp).2
    simp only [bne_iff_ne,ne_eq] at this
    simp [Ne.symm this]
  simp [createTable,rows?,List.lookup_append,h]

@[simp] theorem rows?_dropTable (s : Store) (table : String) :
    (s.dropTable table).rows? table = none := by
  rw [rows?,dropTable,List.lookup_eq_none_iff]
  intro p hp
  have := (List.mem_filter.mp hp).2
  simp only [bne_iff_ne,ne_eq] at this
  simp [Ne.symm this]

end Store

end IndexTrial
