import Joinery.Filter.Condition

/-! Statements that join a primary table with the tables below it. -/

namespace Joinery

/-- A condition on one column; values stand in numbered places outside the statement. -/
inductive Predicate where
  /-- The column has no value. -/
  | isNull (column : String)
  /-- The column has a value. -/
  | isNotNull (column : String)
  /-- The column compared with what is bound to a place. -/
  | compare (column : String) (comparator : Comparator) (placeholder : Nat)
  deriving DecidableEq, Repr

/-- The column of a predicate. -/
def Predicate.column : Predicate → String
  | .isNull column => column
  | .isNotNull column => column
  | .compare column _ _ => column

/-- The place that a predicate reads. -/
def Predicate.placeholder? : Predicate → Option Nat
  | .compare _ _ placeholder => some placeholder
  | _ => none

/-- A column of one of the joined sources, which are counted from zero. -/
structure ColumnRef where
  /-- The number of the source. -/
  source : Nat
  /-- The name of the column. -/
  column : String
  deriving DecidableEq, Repr

/-- A column that a statement returns under a label. -/
structure SelectedColumn where
  /-- The column. -/
  ref : ColumnRef
  /-- The label. -/
  label : String
  deriving DecidableEq, Repr

/-- How the records of a table are ranked before they are joined. -/
structure Ranking where
  /-- The column whose values are ranked each for itself. -/
  key : String
  /-- The terms of the order. -/
  order : Option String
  /-- What holds of the records that are ranked. -/
  conditions : List Predicate
  /-- The last rank that is kept. -/
  cap : Int
  deriving DecidableEq, Repr

/-- A table that is joined to a source before it. -/
structure Join where
  /-- The table. -/
  table : String
  /-- How its records are ranked, when only some for each parent are wanted. -/
  ranking : Option Ranking
  /-- The column of the table. -/
  key : String
  /-- The column that it has to be equal to. -/
  parent : ColumnRef
  /-- What else holds of the joined records. -/
  conditions : List Predicate
  deriving DecidableEq, Repr

/-- A statement: the primary table is source zero, and each join adds one source. -/
structure Statement where
  /-- What is returned. -/
  columns : List SelectedColumn
  /-- The primary table. -/
  table : String
  /-- The joins in order. -/
  joins : List Join
  /-- What holds of the primary records. -/
  conditions : List Predicate
  /-- The columns by which the rows are sorted. -/
  order : List ColumnRef
  /-- How many rows are returned at most. -/
  cap : Int
  deriving DecidableEq, Repr

/-- The predicates of a join, inside its ranking and outside. -/
def Join.predicates (join : Join) : List Predicate :=
  ((join.ranking.map Ranking.conditions).getD []) ++ join.conditions

/-- The places that a statement reads, from its first join to its end. -/
def Statement.placeholders (statement : Statement) : List Nat :=
  (statement.joins.flatMap Join.predicates ++ statement.conditions).filterMap Predicate.placeholder?

end Joinery
