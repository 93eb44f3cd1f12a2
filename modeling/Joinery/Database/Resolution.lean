import Joinery.Database.Evaluation
import Joinery.Statement.Rendering

/-! Before a statement is carried out, every name in it has to be found. -/

namespace Joinery

/-- Refuses with a fault unless a condition holds. -/
def demand (holds : Bool) (fault : DatabaseFault) : Except DatabaseFault Unit :=
  if holds then .ok () else .error fault

/-- Goes through a list and stops at the first fault. -/
def checkAll {α : Type} (check : α → Except DatabaseFault Unit) : List α → Except DatabaseFault Unit
  | [] => .ok ()
  | first :: rest => do
    check first
    checkAll check rest

/-- The order of a ranking can be read. -/
def Join.checkOrder (join : Join) : Except DatabaseFault Unit :=
  match join.ranking with
  | none => .ok ()
  | some ranking => (readOrder ranking.order).mapError .order |>.map fun _ => ()

/-- A table exists. -/
def checkTable (database : Database) (table : String) : Except DatabaseFault Unit :=
  demand (database.table? (readBack table)).isSome (.noTable (readBack table))

/-- A column is found by its name alone; between quotation marks it can also be a text. -/
def checkPlainColumn (relation : Relation) (column : String) : Except DatabaseFault Unit :=
  demand (relation.hasColumn (readBack column) || Dialect.sqlite.needsQuotes column)
    (.noColumn (readBack column))

/-- A column of an order, which is never quoted, is found by its name. -/
def checkTerm (relation : Relation) (term : OrderTerm) : Except DatabaseFault Unit :=
  demand (relation.hasColumn term.column) (.noColumn term.column)

/-- The columns inside a ranking are found. -/
def Join.checkRanking (database : Database) (join : Join) : Except DatabaseFault Unit :=
  match join.ranking with
  | none => .ok ()
  | some ranking => do
    let relation := database.tableOrEmpty join.table
    checkPlainColumn relation ranking.key
    checkAll (checkTerm relation) ranking.terms
    checkAll (fun predicate => checkPlainColumn relation predicate.column) ranking.conditions

/-- A column of a source is found. -/
def checkColumn (sources : List Relation) (ref : ColumnRef) : Except DatabaseFault Unit :=
  demand ((sourceAt sources ref.source).hasColumn (readBack ref.column))
    (.noColumn (sourceAlias ref.source ++ "." ++ readBack ref.column))

/-- The columns of conditions on a source are found. -/
def checkPredicates (sources : List Relation) (source : Nat) (predicates : List Predicate) :
    Except DatabaseFault Unit :=
  checkAll (fun predicate => checkColumn sources ⟨source, predicate.column⟩) predicates

/-- The columns of a join are found: the keys, then those of its conditions. -/
def checkJoin (sources : List Relation) (numbered : Join × Nat) : Except DatabaseFault Unit := do
  let (join, source) := numbered
  checkColumn sources ⟨source, join.key⟩
  checkColumn sources join.parent
  checkPredicates sources source join.conditions

/--
Finds everything that a statement names.

The written orders are read first, then all tables are found, then the columns inside rankings.
The columns of the sources follow: returned ones, those of conditions, those of joins, and the sorted ones.
-/
def Statement.check (statement : Statement) (database : Database) (parameters : List Parameter) :
    Except DatabaseFault Unit := do
  checkAll Join.checkOrder statement.joins
  checkAll (checkTable database) (statement.table :: statement.joins.map (·.table))
  checkAll (Join.checkRanking database) statement.joins
  let sources := statement.sources database parameters
  checkAll (fun selected => checkColumn sources selected.ref) statement.columns
  checkPredicates sources 0 statement.conditions
  checkAll (checkJoin sources) (statement.joins.zipIdx 1)
  checkAll (checkColumn sources) statement.order
  demand (fitsInt64 statement.cap) .capRange

end Joinery
