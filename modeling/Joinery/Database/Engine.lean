import Joinery.Database.Fetching

/-! Statements on a database that is free to choose an order of rows wherever the statement leaves it open. -/

namespace Joinery

/--
The orders of rows that a database chooses by itself.

A statement says in which order it ranks and returns rows. Rows that stand in one place of such an order
stay as the database came across them, which can differ from statement to statement.
-/
structure Engine where
  /-- The order in which the rows of a table are ranked for the source of a number. -/
  scan : Database → Statement → List Parameter → Nat → List Row → List Row
  /-- The order in which joined rows are sorted. -/
  gather : Database → Statement → List Parameter → List JoinedRow → List JoinedRow
  /-- Every row of a table is come across once. -/
  scan_perm : ∀ database statement parameters source rows,
    (scan database statement parameters source rows).Perm rows
  /-- So is every joined row. -/
  gather_perm : ∀ database statement parameters rows,
    (gather database statement parameters rows).Perm rows

/-- The engine that comes across all rows in the order in which they are stored. -/
def Engine.stored : Engine where
  scan _ _ _ _ rows := rows
  gather _ _ _ rows := rows
  scan_perm _ _ _ _ _ := .refl _
  gather_perm _ _ _ _ := .refl _

/-- The rows that the join of a number can match. -/
def Engine.source (engine : Engine) (database : Database) (statement : Statement)
    (parameters : List Parameter) (numbered : Join × Nat) : Relation :=
  let table := database.tableOrEmpty numbered.1.table
  match numbered.1.ranking with
  | none => table
  | some ranking =>
    (table.reorder (engine.scan database statement parameters numbered.2 table.rows)
      (engine.scan_perm ..)).ranked ranking parameters

/-- The sources of a statement: the primary table, then one for each join. -/
def Engine.sources (engine : Engine) (database : Database) (statement : Statement)
    (parameters : List Parameter) : List Relation :=
  database.tableOrEmpty statement.table ::
    (statement.joins.zipIdx 1).map (engine.source database statement parameters)

/-- All joined rows, in the order in which the engine comes across them. -/
def Engine.joinedRows (engine : Engine) (database : Database) (statement : Statement)
    (parameters : List Parameter) : List JoinedRow :=
  let sources := engine.sources database statement parameters
  engine.gather database statement parameters
    (joinAll sources parameters (statement.joins.zip sources.tail)
      ((statement.primaryRows database parameters).map fun row => [row]))

/-- The joined rows that a statement returns. -/
def Engine.resultRows (engine : Engine) (database : Database) (statement : Statement)
    (parameters : List Parameter) : List JoinedRow :=
  let sources := engine.sources database statement parameters
  capRows statement.cap
    ((engine.joinedRows database statement parameters).mergeSort (statement.sortedBefore sources))

/-- Carries out the statement of a plan. -/
def Engine.run (engine : Engine) (database : Database) (plan : Plan) :
    Except DatabaseFault (List FetchedRow) := do
  plan.statement.check database plan.parameters
  let sources := engine.sources database plan.statement plan.parameters
  (engine.resultRows database plan.statement plan.parameters).mapM
    (fetchRow plan.statement.columns plan.resultTypes sources)

end Joinery
