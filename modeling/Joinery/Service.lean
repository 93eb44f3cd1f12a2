import Joinery.Database.Engine
import Joinery.Result.Gathering

/-! Queries are planned, executed once, and answered by a result in every case. -/

namespace Joinery

/-- The signal by which a caller cancels a query. -/
inductive CancelSignal where
  /-- It is never raised. -/
  | quiet
  /-- It was raised before the query began. -/
  | raised
  /-- It is raised while the statement is executed. -/
  | raisedLater
  deriving DecidableEq, Repr

/-- Why a planned query did not come to an answer. -/
inductive ExecutionFault where
  /-- The caller cancelled it. -/
  | cancelled (cancellation : Cancellation)
  /-- The database did not carry it out. -/
  | failed (fault : DatabaseFault)
  deriving DecidableEq, Repr

/--
What becomes of a statement under a signal.

A signal that was raised in time wins over everything but a fault in fetched values.
-/
def CancelSignal.settle (signal : CancelSignal) (ran : Except DatabaseFault (List FetchedRow)) :
    Except ExecutionFault (List FetchedRow) :=
  match signal, ran with
  | .raised, _ => .error (.cancelled .beforeExecution)
  | .quiet, .ok rows => .ok rows
  | .quiet, .error fault => .error (.failed fault)
  | .raisedLater, .ok _ => .error (.cancelled .duringExecution)
  | .raisedLater, .error fault =>
    if fault.isFetching then .error (.failed fault) else .error (.cancelled .duringExecution)

/-- Executes the statement of a plan. -/
def Plan.execute (plan : Plan) (database : Database) (signal : CancelSignal) :
    Except ExecutionFault (List FetchedRow) :=
  signal.settle (plan.run database)

/-- The error of a plan whose statement failed. -/
def Plan.executionError (plan : Plan) (fault : DatabaseFault) : ExecutionError where
  reason := fault.message
  primary := some plan.primary.name
  joined := plan.joined
  statement := none

/-- The wording of a fault in the execution of a plan. -/
def Plan.faultMessage (plan : Plan) : ExecutionFault → String
  | .cancelled cancellation => cancellation.message
  | .failed fault => (plan.executionError fault).message

/-- The result of an executed plan, whatever went wrong. -/
def Plan.answer (plan : Plan) :
    Except ExecutionFault (List FetchedRow) → Except Misuse QueryResult
  | .error fault => .ok (.failed (plan.faultMessage fault) plan.warningTexts)
  | .ok rows => plan.materialize (rows.map .map)

/-- A registry of entities, a database that holds their records, and room for what is told. -/
structure Service where
  /-- The registry. -/
  registry : Registry
  /-- The database. -/
  database : Database
  /-- In how many levels values may stand in one another where a complaint shows them. -/
  levels : Nat

/-- Carries out a plan; whatever goes wrong becomes a result. -/
def Service.carryOut (service : Service) (plan : Plan) (signal : CancelSignal) :
    Except Misuse QueryResult :=
  plan.answer (plan.execute service.database signal)

/--
Answers a query.

It has no answer when it was put together from values of the wrong kind, when its cap cannot be written,
and when the complaint about it shows a value that cannot be shown.
-/
def Service.execute (service : Service) (query : Query) (signal : CancelSignal) :
    Except Misuse QueryResult :=
  match service.registry.plan query with
  | .error fault => return .failed (← fault.message service.levels) []
  | .ok plan => service.carryOut plan signal

/-- Answers a query with a database that chooses the order of rows where the query leaves it open. -/
def Service.executeOn (service : Service) (engine : Engine) (query : Query) (signal : CancelSignal) :
    Except Misuse QueryResult :=
  match service.registry.plan query with
  | .error fault => return .failed (← fault.message service.levels) []
  | .ok plan => plan.answer (signal.settle (engine.run service.database plan))

/-- The query that a service starts, rooted at an entity when one is named. -/
def Query.start (entity : Value) : Query :=
  if entity.truthy then Query.empty.fromEntity entity else .empty

end Joinery
