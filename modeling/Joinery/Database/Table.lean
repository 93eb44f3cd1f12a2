import Joinery.Database.Affinity

/-! Tables of rows, and databases of tables. -/

namespace Joinery

/-- A column of a table. -/
structure Column where
  /-- The name of the column. -/
  name : String
  /-- What it prefers to hold. -/
  affinity : Affinity
  deriving DecidableEq, Repr

/-- The cells of a row, in the order of the columns. -/
abbrev Row := List Cell

/-- Columns, and rows in the order in which they came. -/
@[ext]
structure Relation where
  /-- The columns. -/
  columns : List Column
  /-- The rows. -/
  rows : List Row
  /-- Every row has one cell for each column. -/
  rectangular : ∀ row ∈ rows, row.length = columns.length
  deriving DecidableEq, Repr

/-- The relation without columns and rows. -/
def Relation.empty : Relation := ⟨[], [], fun _ member => absurd member List.not_mem_nil⟩

/-- The rows of a relation that are to be kept. -/
def Relation.keep (relation : Relation) (kept : Row → Bool) : Relation where
  columns := relation.columns
  rows := relation.rows.filter kept
  rectangular row member := relation.rectangular row (List.mem_filter.mp member).1

/-- The rows of a relation in another order. -/
def Relation.reorder (relation : Relation) (rows : List Row) (same : rows.Perm relation.rows) :
    Relation where
  columns := relation.columns
  rows := rows
  rectangular row member := relation.rectangular row (same.mem_iff.mp member)

/-- A name without the case of its ASCII letters. -/
def foldedName (name : String) : List Char := name.toList.map Char.toLower

/-- Whether two names of tables or columns agree, the case of ASCII letters aside. -/
def sameIdentifier (a b : String) : Bool :=
  foldedName a == foldedName b

/-- Names are compared without the case of their letters. -/
theorem sameIdentifier_iff {a b : String} :
    sameIdentifier a b = true ↔ foldedName a = foldedName b := by
  -- This is how the comparison is made.
  exact beq_iff_eq

/-- The position of the first column with a name. -/
def Relation.position? (relation : Relation) (name : String) : Option Nat :=
  relation.columns.findIdx? (sameIdentifier ·.name name)

/-- Whether there is a column with a name. -/
def Relation.hasColumn (relation : Relation) (name : String) : Bool :=
  (relation.position? name).isSome

/-- The cell of a row under a name; a name that is no column stands for itself as a text. -/
def Relation.cell (relation : Relation) (name : String) (row : Row) : Cell :=
  match relation.position? name with
  | some position => row.getD position .null
  | none => .text name

/-- What the column of a name prefers. -/
def Relation.affinity (relation : Relation) (name : String) : Affinity :=
  match relation.position? name with
  | some position => ((relation.columns[position]?).map (·.affinity)).getD .none
  | none => .none

/-- The row without values. -/
def Relation.nullRow (relation : Relation) : Row :=
  relation.columns.map fun _ => .null

/-- A relation under a name. -/
structure Table where
  /-- The name. -/
  name : String
  /-- The columns and the rows. -/
  relation : Relation
  deriving DecidableEq, Repr

/-- A table, with another relation in the place of its own where it has the given name. -/
def Table.put (name : String) (relation : Relation) (table : Table) : Table where
  name := table.name
  relation := if sameIdentifier table.name name then relation else table.relation

/-- Tables. -/
structure Database where
  /-- The tables in the order in which they were created. -/
  tables : List Table
  /-- No two tables have one name. -/
  distinct : (tables.map fun table => foldedName table.name).Nodup
  deriving DecidableEq, Repr

/-- The database without tables. -/
def Database.empty : Database := ⟨[], .nil⟩

instance : Inhabited Database := ⟨.empty⟩

/-- The table of a name. -/
def Database.table? (database : Database) (name : String) : Option Relation :=
  (database.tables.find? (sameIdentifier ·.name name)).map (·.relation)

/-- A name that no table was found under is a new one. -/
theorem Database.nodup_append {database : Database} {name : String} (relation : Relation)
    (new : database.table? name = none) :
    ((database.tables ++ [Table.mk name relation]).map fun table => foldedName table.name).Nodup := by
  rw [List.map_append, List.map_singleton, List.nodup_append]
  refine ⟨database.distinct, List.pairwise_singleton _ _, fun key former other last same => ?_⟩
  -- The name was looked for among the former tables.
  obtain ⟨table, member, rfl⟩ := List.mem_map.mp former
  rw [table?, Option.map_eq_none_iff, List.find?_eq_none] at new
  exact new table member (sameIdentifier_iff.mpr (same.trans (List.mem_singleton.mp last)))

/-- The database with one more table. -/
def Database.add (database : Database) (name : String) (relation : Relation)
    (new : database.table? name = none) : Database where
  tables := database.tables ++ [⟨name, relation⟩]
  distinct := nodup_append relation new

/-- The database with another relation as one of its tables. -/
def Database.put (database : Database) (name : String) (relation : Relation) : Database where
  tables := database.tables.map (Table.put name relation)
  distinct := by
    -- No table gets another name.
    rw [List.map_map]
    exact database.distinct

/-- The rows of a table, none when it does not exist. -/
def Database.rows (database : Database) (name : String) : List Row :=
  ((database.table? name).map (·.rows)).getD []

end Joinery
