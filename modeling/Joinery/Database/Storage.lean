import Joinery.Database.Numbering
import Joinery.Database.Table

/-! Tables are defined, created and filled. -/

namespace Joinery

/-- Why something cannot be stored. -/
inductive StorageFault where
  /-- There is no such table. -/
  | noTable (name : String)
  /-- A table of the name exists already. -/
  | tableExists (name : String)
  /-- There is no such column, or there are two of it. -/
  | column (name : String)
  /-- A value that has to be there is not. -/
  | missing (column : String)
  /-- Another row has the key already. -/
  | duplicate (column : String)
  /-- Rows are numbered, and the key is no number. -/
  | unnumbered (column : String)
  /-- Rows are numbered, and every number has been given. -/
  | full (column : String)
  /-- The value cannot be stored in such a column. -/
  | misuse (misuse : Misuse)
  deriving DecidableEq, Repr

/-- What a column holds when nothing is given for it. -/
inductive ColumnDefault where
  /-- Nothing. -/
  | nothing
  /-- A value. -/
  | constant (given : Value)
  /-- The time of storing. -/
  | clock
  deriving Repr

/-- The definition of a column. -/
structure ColumnDefinition where
  /-- The name. -/
  name : String
  /-- What the values mean. -/
  type : SemanticType
  /-- Whether every row has a value. -/
  required : Bool
  /-- What stands in for a value that is not given. -/
  default : ColumnDefault
  deriving Repr

/-- The definition of a table. -/
structure TableDefinition where
  /-- The name. -/
  name : String
  /-- The column whose values tell the rows apart. -/
  key : String
  /-- Whether the key is a number that new rows get by themselves. -/
  numbered : Bool
  /-- The columns. -/
  columns : List ColumnDefinition
  deriving Repr

/-- The values of a row under the names of their columns. -/
abbrev NewRow := Entries Value

/-- The column of a definition in a table. -/
def ColumnDefinition.column (definition : ColumnDefinition) : Column :=
  ⟨definition.name, definition.type.affinity⟩

/-- The columns of a definition, without rows. -/
def TableDefinition.relation (definition : TableDefinition) : Relation where
  columns := definition.columns.map (·.column)
  rows := []
  rectangular _ member := absurd member List.not_mem_nil

/-- The database with one more table, unless it has the table already. -/
def Database.create (database : Database) (definition : TableDefinition) : Database :=
  match new : database.table? definition.name with
  | some _ => database
  | none => database.add definition.name definition.relation new

/-- The database with several more tables. -/
def Database.createAll (database : Database) (definitions : List TableDefinition) : Database :=
  definitions.foldl create database

/-- What a column gets when nothing is given for it. -/
def ColumnDefault.at (default : ColumnDefault) (now : LocalTime) : Value :=
  match default with
  | .nothing => .null
  | .constant given => given
  | .clock => .moment ⟨now, none⟩

/-- The cell of a new row in a defined column. -/
def ColumnDefinition.cell (definition : ColumnDefinition) (now : LocalTime) (row : NewRow) :
    Except StorageFault (String × Cell) :=
  let value := (row.get? definition.name).getD (definition.default.at now)
  match value.cell definition.type with
  | .ok cell => .ok (definition.name, definition.type.affinity.store cell)
  | .error misuse => .error (.misuse misuse)

/-- The key of a new row. -/
def TableDefinition.keyCell (definition : TableDefinition) (numbering : Numbering) (keys : List Cell)
    (given : Cell) : Except StorageFault Cell :=
  if definition.numbered then
    match given with
    | .null =>
      match numbering.next? definition.name keys with
      | some n => .ok (.integer n)
      | none => .error (.full definition.key)
    | .integer n => .ok (.integer n)
    | _ => .error (.unnumbered definition.key)
  else .ok given

/-- The columns of a definition exist. -/
def TableDefinition.checkColumns (definition : TableDefinition) (relation : Relation) :
    Except StorageFault Unit :=
  match definition.columns.find? fun column => !relation.hasColumn column.name with
  | some column => .error (.column column.name)
  | none => .ok ()

/-- Every required cell has a value. -/
def TableDefinition.checkRequired (definition : TableDefinition) (cells : Entries Cell) :
    Except StorageFault Unit :=
  let isMissing (column : ColumnDefinition) : Bool :=
    column.required && ((cells.get? column.name).getD .null).isNull
  match definition.columns.find? isMissing with
  | some column => .error (.missing column.name)
  | none => .ok ()

/-- The row that cells under names make in a table. -/
def Relation.rowOf (relation : Relation) (cells : Entries Cell) : Row :=
  relation.columns.map fun column => (cells.get? column.name).getD .null

/-- Such a row has one cell for each column. -/
theorem Relation.length_rowOf (relation : Relation) (cells : Entries Cell) :
    (relation.rowOf cells).length = relation.columns.length := List.length_map _

/-- Puts a row into its place: numbered rows are kept in the order of their numbers. -/
def TableDefinition.place (definition : TableDefinition) (relation : Relation) (row : Row) :
    List Row :=
  let key := relation.cell definition.key row
  let isBefore (other : Row) : Bool := (relation.cell definition.key other).order key != .gt
  if definition.numbered then
    relation.rows.takeWhile isBefore ++ row :: relation.rows.dropWhile isBefore
  else relation.rows ++ [row]

/-- In its place, a row stands among the former rows. -/
theorem TableDefinition.perm_place (definition : TableDefinition) (relation : Relation) (row : Row) :
    (definition.place relation row).Perm (relation.rows ++ [row]) := by
  rw [place]
  split
  · -- It stands between the rows before it and those after it.
    generalize (fun other => (relation.cell definition.key other).order _ != .gt) = isBefore
    calc (relation.rows.takeWhile isBefore ++ row :: relation.rows.dropWhile isBefore).Perm
          (row :: (relation.rows.takeWhile isBefore ++ relation.rows.dropWhile isBefore)) :=
        List.perm_middle
      _ = row :: relation.rows := by rw [List.takeWhile_append_dropWhile]
      List.Perm _ (relation.rows ++ [row]) := (List.perm_append_singleton row relation.rows).symm
  · exact .refl _

/-- A relation with one more row, in its place. -/
def TableDefinition.store (definition : TableDefinition) (relation : Relation) (row : Row)
    (full : row.length = relation.columns.length) : Relation where
  columns := relation.columns
  rows := definition.place relation row
  rectangular other member := by
    -- It is a former row or the new one.
    rcases List.mem_append.mp ((definition.perm_place relation row).mem_iff.mp member) with former | new
    · exact relation.rectangular other former
    · rw [List.mem_singleton.mp new, full]

/-- A row can be stored: no value is missing and its key is new. -/
def TableDefinition.check (definition : TableDefinition) (keys : List Cell) (key : Cell)
    (cells : Entries Cell) : Except StorageFault Unit := do
  definition.checkRequired cells
  if keys.any key.same then .error (.duplicate definition.key) else .ok ()

/-- Stores a row in a table; the answer has the key of the row. -/
def Database.insert (database : Database) (definition : TableDefinition) (host : Host)
    (row : NewRow) : Except StorageFault (Database × Cell) := do
  let some relation := database.table? definition.name | .error (.noTable definition.name)
  definition.checkColumns relation
  let given ← definition.columns.mapM (·.cell host.clock row)
  let keys := relation.rows.map (relation.cell definition.key)
  let key ← definition.keyCell host.numbering keys ((Entries.get? given definition.key).getD .null)
  let cells := Entries.insert given definition.key key
  definition.check keys key cells
  let stored := definition.store relation (relation.rowOf cells) (relation.length_rowOf cells)
  return (database.put definition.name stored, key)

/-- Whether two columns have one name. -/
def hasTwins : List String → Bool
  | [] => false
  | name :: rest => rest.any (sameIdentifier name) || hasTwins rest

/-- The cells of a row, value by value; where there are none left, there is no value. -/
def rowCells : (types : List SemanticType) → List Value →
    Except Misuse { row : Row // row.length = types.length }
  | [], _ => .ok ⟨[], rfl⟩
  | type :: types, values => do
    let cell ← (values.headD .null).cell type
    let ⟨rest, full⟩ ← rowCells types values.tail
    return ⟨type.affinity.store cell :: rest, congrArg (· + 1) full⟩

/-- Columns with their types, and rows that have one cell for each of them. -/
def Relation.ofRows (columns : List (String × SemanticType))
    (rows : List { row : Row // row.length = (columns.map (·.2)).length }) : Relation where
  columns := columns.map fun (name, type) => ⟨name, type.affinity⟩
  rows := rows.map (·.val)
  rectangular row member := by
    obtain ⟨⟨_, full⟩, _, rfl⟩ := List.mem_map.mp member
    simpa using full

/-- The database with one more table and its rows. -/
def Database.addTable (database : Database) (name : String) (columns : List (String × SemanticType))
    (rows : List (List Value)) : Except StorageFault Database :=
  match new : database.table? name with
  | some _ => .error (.tableExists name)
  | none => do
    if columns.isEmpty || hasTwins (columns.map (·.1)) then .error (.column name)
    let rows ← (rows.mapM (rowCells (columns.map (·.2)))).mapError .misuse
    return database.add name (.ofRows columns rows) new

/-- The number of rows in a table. -/
def Database.count (database : Database) (name : String) : Except StorageFault Nat :=
  match database.table? name with
  | some relation => .ok relation.rows.length
  | none => .error (.noTable name)

end Joinery
