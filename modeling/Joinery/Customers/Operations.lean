import Joinery.Service

/-! What can be asked about customers, under a name and with a filter for each kind of record. -/

namespace Joinery

/-- The kinds of records that an operation filters. -/
inductive FilterSlot where
  /-- The customers themselves. -/
  | profile
  /-- Their subscriptions. -/
  | subscription
  /-- The products on these. -/
  | product
  /-- What was talked about. -/
  | interaction
  deriving DecidableEq, Repr

/-- The name of a filter. -/
def FilterSlot.name : FilterSlot → String
  | .profile => "profile"
  | .subscription => "subscription"
  | .product => "product"
  | .interaction => "interaction"

/-- A filter document for each kind of record, null where there is none. -/
structure CustomerFilters where
  /-- Which customers. -/
  profile : Value
  /-- Which subscriptions. -/
  subscription : Value
  /-- Which products. -/
  product : Value
  /-- Which interactions. -/
  interaction : Value
  deriving Repr

/-- The filter of a kind. -/
def CustomerFilters.get (filters : CustomerFilters) : FilterSlot → Value
  | .profile => filters.profile
  | .subscription => filters.subscription
  | .product => filters.product
  | .interaction => filters.interaction

/-- The filters among named values. -/
def CustomerFilters.ofEntries (entries : Entries Value) : CustomerFilters :=
  let given (slot : FilterSlot) : Value := (entries.get? slot.name).getD .null
  ⟨given .profile, given .subscription, given .product, given .interaction⟩

/-- The filters that stand for these kinds, one after the other. -/
def CustomerFilters.inOrder (slots : List FilterSlot) (documents : List Value) : CustomerFilters :=
  .ofEntries ((slots.map FilterSlot.name).zip documents)

/-- What is seen of customers. -/
inductive CustomerView where
  /-- Everything. -/
  | overview
  /-- Their subscriptions and the products on each. -/
  | subscriptions
  /-- The products on all of their subscriptions, and nothing else. -/
  | products
  /-- What was talked about with them. -/
  | interactions
  /-- Only themselves. -/
  | profile
  deriving DecidableEq, Repr

/-- The filters that matter to a view. -/
def CustomerView.slots : CustomerView → List FilterSlot
  | .overview => [.profile, .subscription, .product, .interaction]
  | .subscriptions => [.profile, .subscription, .product]
  | .products => [.profile, .product]
  | .interactions => [.profile, .interaction]
  | .profile => [.profile]

/-- Joins the subscriptions of customers. -/
def joinSubscriptions (document : Value) : QueryStep :=
  .withRelated (.text "Subscription") document .null

/-- Joins the products of subscriptions. -/
def joinProducts (document : Value) : QueryStep :=
  .withRelated (.text "Product") document (.text "Subscription")

/-- Joins the interactions with customers. -/
def joinInteractions (document : Value) : QueryStep :=
  .withRelated (.text "Interaction") document .null

/-- The steps that follow the filter on customers; products are reached through subscriptions. -/
def CustomerView.joins (view : CustomerView) (filters : CustomerFilters) : List QueryStep :=
  match view with
  | .overview =>
    [joinSubscriptions filters.subscription, joinProducts filters.product,
     joinInteractions filters.interaction]
  | .subscriptions => [joinSubscriptions filters.subscription, joinProducts filters.product]
  | .products => [joinSubscriptions .null, joinProducts filters.product, .select ["Product"]]
  | .interactions => [joinInteractions filters.interaction]
  | .profile => [.limit (.int 1)]

/-- The query of a view. -/
def CustomerView.query (view : CustomerView) (filters : CustomerFilters) : Except Rejection Query :=
  Query.empty.applyAll <|
    .fromEntity (.text "CustomerProfile") :: .whereFilter filters.profile :: view.joins filters

/-- What can be asked. -/
inductive CustomerOperation where
  /-- Everything about customers. -/
  | overview
  /-- Subscriptions with their products. -/
  | subscriptions
  /-- Subscriptions with those of their products that match a filter. -/
  | subscriptionsByProduct
  /-- Products. -/
  | products
  /-- Interactions. -/
  | interactions
  /-- Customers alone. -/
  | profile
  deriving DecidableEq, Repr

/-- All operations. -/
def CustomerOperation.all : List CustomerOperation :=
  [.overview, .subscriptions, .subscriptionsByProduct, .products, .interactions, .profile]

/-- The name of an operation. -/
def CustomerOperation.name : CustomerOperation → String
  | .overview => "get_customer_360"
  | .subscriptions => "get_customer_subscriptions"
  | .subscriptionsByProduct => "get_customer_subscriptions_by_product"
  | .products => "get_customer_products"
  | .interactions => "get_customer_interactions"
  | .profile => "get_customer_profile"

/-- The operation of a name. -/
def CustomerOperation.ofName? (name : String) : Option CustomerOperation :=
  all.find? (·.name == name)

/-- The filters that an operation takes, in the order in which it takes them. -/
def CustomerOperation.parameters : CustomerOperation → List FilterSlot
  | .overview => [.profile, .subscription, .product, .interaction]
  | .subscriptions => [.profile, .subscription, .product]
  | .subscriptionsByProduct => [.profile, .product, .subscription]
  | .products => [.profile, .product]
  | .interactions => [.profile, .interaction]
  | .profile => [.profile]

/-- The view that an operation answers with. -/
def CustomerOperation.view : CustomerOperation → CustomerView
  | .overview => .overview
  | .subscriptions => .subscriptions
  | .subscriptionsByProduct => .subscriptions
  | .products => .products
  | .interactions => .interactions
  | .profile => .profile

/-- The filters that have to be given. -/
def CustomerOperation.required : CustomerOperation → List FilterSlot
  | .subscriptionsByProduct => [.profile, .product]
  | _ => [.profile]

/-- Carries out an operation. -/
def CustomerOperation.run (operation : CustomerOperation) (service : Service)
    (filters : CustomerFilters) : Except PlanFault QueryResult :=
  match operation.view.query filters with
  | .error cause => .error (.rejected cause)
  | .ok query => (service.execute query .quiet).mapError .misuse

/-- Carries out an operation with filters in the order in which it takes them. -/
def CustomerOperation.carryOut (operation : CustomerOperation) (service : Service)
    (documents : List Value) : Except PlanFault QueryResult :=
  operation.run service (.inOrder operation.parameters documents)

/-- Reads filters that are given by name: none is unknown, and no required one is left out. -/
def readFilters (known required : List FilterSlot) (entries : Entries Value) :
    Except Misuse CustomerFilters :=
  if entries.keys.all (known.map FilterSlot.name).contains && required.all (entries.has ·.name) then
    .ok (.ofEntries entries)
  else .error .wrongKind

/-- Carries out an operation with filters that are given by name. -/
def CustomerOperation.call (operation : CustomerOperation) (service : Service)
    (arguments : Entries Value) : Except PlanFault QueryResult := do
  let filters ← (readFilters operation.parameters operation.required arguments).mapError .misuse
  operation.run service filters

end Joinery
