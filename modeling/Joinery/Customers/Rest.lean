import Joinery.Customers.Operations

/-! The operations over requests with a method, a path and a body. -/

namespace Joinery

/-- A request. -/
structure Request where
  /-- The method. -/
  method : String
  /-- The path. -/
  path : String
  /-- The body, when there is one. -/
  body : Option Value
  deriving Repr

/-- The answer to a request. -/
inductive Response where
  /-- A status and a body. -/
  | answer (status : Nat) (body : Value)
  /-- The body of the request cannot be read. -/
  | unreadable (issues : List Issue)
  deriving Repr

/-- The path of an operation. -/
def CustomerOperation.path : CustomerOperation → String
  | .overview => "/api/customer/360"
  | .subscriptions => "/api/customer/subscriptions"
  | .subscriptionsByProduct => "/api/customer/subscriptions-by-product"
  | .products => "/api/customer/products"
  | .interactions => "/api/customer/interactions"
  | .profile => "/api/customer/profile"

/-- A path without the slashes at its end. -/
def withoutEndSlashes (path : String) : String :=
  String.ofList (path.toList.reverse.dropWhile (· = '/')).reverse

/-- The operation at a path; slashes at the end of the path do not matter. -/
def CustomerOperation.ofPath? (path : String) : Option CustomerOperation :=
  all.find? (·.path == withoutEndSlashes path)

/-- Reads the filter on customers, without any conditions when it is left out. -/
def Reader.profileFilter (body : Entries Value) : Checked Value :=
  (field body "profile" mapping (some [])).map .map

/-- Reads a filter that may be left out or null. -/
def Reader.optionalFilter (body : Entries Value) (slot : FilterSlot) : Checked Value :=
  (field body slot.name (optional mapping) (some none)).map (Value.ofOption .map)

/-- Reads a filter that has to be there. -/
def Reader.requiredFilter (body : Entries Value) (slot : FilterSlot) : Checked Value :=
  (field body slot.name mapping none).map .map

/-- Reads the filters of an operation from the fields of a body, in the order of the fields. -/
def CustomerOperation.readFields (operation : CustomerOperation) (body : Entries Value) :
    Checked (List Value) :=
  let profile := Reader.profileFilter body
  let optional := Reader.optionalFilter body
  match operation with
  | .overview => .sequence [profile, optional .subscription, optional .product, optional .interaction]
  | .subscriptions => .sequence [profile, optional .subscription, optional .product]
  | .subscriptionsByProduct =>
    .sequence [profile, Reader.requiredFilter body .product, optional .subscription]
  | .products => .sequence [profile, optional .product]
  | .interactions => .sequence [profile, optional .interaction]
  | .profile => .sequence [profile]

/-- Reads the filters of an operation from the body of a request. -/
def CustomerOperation.readBody (operation : CustomerOperation) (body : Option Value) :
    Checked (List Value) :=
  Checked.under (.key "body") <|
    match body with
    | none => .fail .missing
    | some (.map fields) => operation.readFields fields
    | some _ => .fail .request

/-- The answer with the document of a result: 200 for success, 400 for failure. -/
def QueryResult.response (result : QueryResult) : Response :=
  .answer (if result.success then 200 else 400) result.toDocument

/-- An answer that only tells what went wrong. -/
def Response.complaint (status : Nat) (detail : String) : Response :=
  .answer status (.map [("detail", .text detail)])

/-- Answers a request at the path of an operation. -/
def CustomerOperation.respond (operation : CustomerOperation) (service : Service)
    (body : Option Value) : Except PlanFault Response :=
  match operation.readBody body with
  | .invalid issues => .ok (.unreadable issues)
  | .valid documents => (operation.carryOut service documents).map (·.response)

/-- Answers a request. -/
def Service.respond (service : Service) (request : Request) : Except PlanFault Response :=
  match CustomerOperation.ofPath? request.path with
  | none => .ok (.complaint 404 "Not Found")
  | some operation =>
    if request.method.map Char.toUpper = "POST" then operation.respond service request.body
    else .ok (.complaint 405 "Method Not Allowed")

end Joinery
