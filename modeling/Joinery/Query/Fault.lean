import Joinery.Query.Rejection
import Joinery.Schema.Coercion

/-! Why a query does not come to an answer. -/

namespace Joinery

/-- Why a query cannot be planned. -/
inductive PlanFault where
  /-- The query is refused. -/
  | rejected (rejection : Rejection)
  /-- A value cannot be converted to the meaning of its field. -/
  | conversion (error : ConversionError)
  /-- The query was put together from values of the wrong kind. -/
  | misuse (misuse : Misuse)
  deriving Repr

/-- The wording of a fault in planning; values of the wrong kind have none. -/
def PlanFault.message (levels : Nat) : PlanFault → Except Misuse String
  | .rejected cause => cause.message levels
  | .conversion cause => cause.message levels
  | .misuse cause => .error cause

/-- What comes of a fault when it is told: itself, or the misuse that leaves it without a wording. -/
def PlanFault.raised (levels : Nat) (fault : PlanFault) : PlanFault :=
  match fault.message levels with
  | .ok _ => fault
  | .error cause => .misuse cause

/-- A value converted to the meaning of a field; a complaint about it is told. -/
def coerce (levels : Nat) (field : String) (type : SemanticType) (value : Value) :
    Except PlanFault BoundValue :=
  (bindValue levels field type value).mapError fun complaint =>
    (PlanFault.conversion complaint).raised levels

/-- When a running query was cancelled. -/
inductive Cancellation where
  /-- Before its statement was executed. -/
  | beforeExecution
  /-- While its statement was executed. -/
  | duringExecution
  deriving DecidableEq, Repr

/-- The wording of a cancellation. -/
def Cancellation.message : Cancellation → String
  | .beforeExecution => "Query cancelled before execution"
  | .duringExecution => "Query cancelled during execution"

/-- A statement that the database did not carry out. -/
structure ExecutionError where
  /-- What the database says. -/
  reason : String
  /-- The primary entity of the query, where it is known. -/
  primary : Option String
  /-- The joined entities of the query. -/
  joined : List String
  /-- The statement. -/
  statement : Option String
  deriving DecidableEq, Repr

/-- The complaint about a statement, with the entities of its query. -/
def ExecutionError.message (e : ExecutionError) : String :=
  match e.primary with
  | none => e.reason
  | some primary =>
    if primary = "" then e.reason
    else
      let joined := ", ".intercalate e.joined
      "Query on " ++ primary ++ " (joins: " ++ (if joined = "" then "none" else joined) ++
        ") failed: " ++ e.reason

/-- Something that is worth telling about a plan. -/
structure PlanningWarning where
  /-- What there is to tell. -/
  message : String
  /-- The entities that it concerns. -/
  entities : List String
  deriving DecidableEq, Repr

end Joinery
