import Joinery.Customers.Operations

/-! The operations as tools for agents, which call them by name. -/

namespace Joinery

/-- The filters that a tool takes, which it passes on in this order. -/
def CustomerOperation.toolParameters : CustomerOperation → List FilterSlot
  | .overview => [.profile, .subscription, .product, .interaction]
  | .subscriptions => [.profile, .subscription, .product]
  | .subscriptionsByProduct => [.profile, .product, .subscription]
  | .products => [.profile, .product]
  | .interactions => [.profile, .interaction]
  | .profile => [.profile]

/-- What an agent is told about a tool. -/
structure ToolDescription where
  /-- The name. -/
  name : String
  /-- The parameters that have to be given. -/
  required : List String
  /-- All parameters in alphabetical order. -/
  parameters : List String
  deriving DecidableEq, Repr

/-- Names in alphabetical order. -/
def sortNames (names : List String) : List String :=
  names.mergeSort fun a b => compare a b != .gt

/-- The description of an operation as a tool. -/
def CustomerOperation.description (operation : CustomerOperation) : ToolDescription where
  name := operation.name
  required := operation.required.map FilterSlot.name
  parameters := sortNames (operation.toolParameters.map FilterSlot.name)

/-- All tools in the order of their names. -/
def agentTools : List ToolDescription :=
  (CustomerOperation.all.map (·.description)).mergeSort fun a b => compare a.name b.name != .gt

/-- Calls a tool with filters that are given by name; it answers with a document. -/
def callTool (service : Service) (name : String) (arguments : Entries Value) :
    Except PlanFault Value :=
  match CustomerOperation.ofName? name with
  | none => .error (.misuse .noSuchMember)
  | some operation => do
    let filters ←
      (readFilters operation.toolParameters operation.required arguments).mapError .misuse
    let result ← operation.carryOut service (operation.toolParameters.map filters.get)
    return result.toDocument

end Joinery
