import Joinery.Statement.Basic
import Joinery.Statement.Dialect

/-! The written form of statements. -/

namespace Joinery

/-- The alias of a source. -/
def sourceAlias (source : Nat) : String :=
  "t" ++ intText source

/-- A column behind the alias of its source, or alone. -/
def Dialect.column (dialect : Dialect) (source : Option Nat) (column : String) : String :=
  match source with
  | none => dialect.quote column
  | some source => sourceAlias source ++ "." ++ dialect.quote column

/-- The name of a place for a value. -/
def placeholderName (placeholder : Nat) : String :=
  "p" ++ intText placeholder

/-- A condition on a column of a source. -/
def Dialect.predicate (dialect : Dialect) (source : Option Nat) : Predicate → String
  | .isNull column => dialect.column source column ++ " IS NULL"
  | .isNotNull column => dialect.column source column ++ " IS NOT NULL"
  | .compare column comparator placeholder =>
    dialect.column source column ++ " " ++ comparator.spelling ++ " :" ++ placeholderName placeholder

/-- Conditions that hold together. -/
def Dialect.conjunction (dialect : Dialect) (source : Option Nat) (predicates : List Predicate) :
    String :=
  " AND ".intercalate (predicates.map (dialect.predicate source))

/-- The rows that are joined: those of a table, or the first ones of a ranking. -/
def Dialect.joined (dialect : Dialect) (join : Join) : String :=
  match join.ranking with
  | none => dialect.quote join.table
  | some ranking =>
    "(SELECT * FROM (" ++
      dialect.ranked join.table ranking.key ranking.order
        (dialect.conjunction none ranking.conditions) ++
      ") ranked WHERE _rn <= " ++ intText ranking.cap ++ ")"

/-- A join whose rows become the given source. -/
def Dialect.join (dialect : Dialect) (source : Nat) (join : Join) : String :=
  " LEFT JOIN " ++ dialect.joined join ++ " " ++ sourceAlias source ++ " ON " ++
    dialect.column (some source) join.key ++ " = " ++
    dialect.column (some join.parent.source) join.parent.column ++
    String.join (join.conditions.map fun p => " AND " ++ dialect.predicate (some source) p)

/-- A returned column with its label. -/
def Dialect.selected (dialect : Dialect) (selected : SelectedColumn) : String :=
  dialect.column (some selected.ref.source) selected.ref.column ++ " AS " ++
    dialect.quoteAlways selected.label

/-- A statement. -/
def Dialect.statement (dialect : Dialect) (statement : Statement) : String :=
  let columns := ", ".intercalate (statement.columns.map dialect.selected)
  let joins := String.join (statement.joins.mapIdx fun position => dialect.join (position + 1))
  let conditions :=
    if statement.conditions.isEmpty then ""
    else " WHERE " ++ dialect.conjunction (some 0) statement.conditions
  let order := ", ".intercalate
    (statement.order.map fun ref => dialect.column (some ref.source) ref.column)
  dialect.capRows
    ("SELECT " ++ columns ++ " FROM " ++ dialect.quote statement.table ++ " t0" ++ joins ++
      conditions ++ " ORDER BY " ++ order)
    statement.cap

end Joinery
