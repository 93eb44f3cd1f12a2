import Joinery.Schema.Document

/-! The entities of the customer domain. -/

namespace Joinery

/-- A field with its description. -/
def describedField (name : String) (type : SemanticType) (description : String) :
    String × FieldDefinition :=
  (name, ⟨type, description⟩)

/-- A relationship towards an entity. -/
def relatedTo (other foreignKey : String) (localKey : Option String) (cardinality : Cardinality) :
    String × Relationship :=
  (other, ⟨foreignKey, localKey, cardinality⟩)

/-- The customers themselves. -/
def customerProfile : EntitySchema where
  name := "CustomerProfile"
  tableName := "CustomerProfile"
  description := "Core customer identity record"
  identifierField := "customer_id"
  fields :=
    [describedField "customer_id" .string "Unique customer identifier (e.g. C001)",
     describedField "name" .string "Customer full name",
     describedField "email" .string "Primary email address",
     describedField "phone" .string "Primary phone number",
     describedField "created_at" .datetime "When the customer record was created"]
  allowedFilterFields := ["customer_id", "name", "email", "phone", "created_at"]
  defaultOrderBy := none
  relationships :=
    [relatedTo "Subscription" "customer_id" none .oneToMany,
     relatedTo "Interaction" "customer_id" none .oneToMany]

/-- The plans that customers hold. -/
def subscription : EntitySchema where
  name := "Subscription"
  tableName := "Subscription"
  description := "Subscription plans held by a customer"
  identifierField := "id"
  fields :=
    [describedField "id" .integer "Subscription identifier",
     describedField "customer_id" .string "Owning customer",
     describedField "plan_name" .string "Plan name (Starter, Professional, ...)",
     describedField "status" .string "active, cancelled or expired",
     describedField "start_date" .datetime "Subscription start",
     describedField "end_date" .datetime "Subscription end, if any"]
  allowedFilterFields := ["plan_name", "status", "start_date", "end_date"]
  defaultOrderBy := some "start_date DESC"
  relationships :=
    [relatedTo "CustomerProfile" "customer_id" none .manyToOne,
     relatedTo "Product" "id" (some "subscription_id") .oneToMany]

/-- The products on a subscription. -/
def product : EntitySchema where
  name := "Product"
  tableName := "Product"
  description := "Products included in a subscription"
  identifierField := "id"
  fields :=
    [describedField "id" .integer "Product line identifier",
     describedField "subscription_id" .integer "Owning subscription",
     describedField "product_name" .string "Product display name",
     describedField "sku" .string "Stock keeping unit",
     describedField "quantity" .integer "Licensed quantity",
     describedField "price" .decimal "Unit price"]
  allowedFilterFields := ["product_name", "sku", "quantity", "price"]
  defaultOrderBy := some "product_name ASC"
  relationships := [relatedTo "Subscription" "subscription_id" none .manyToOne]

/-- What was talked about with a customer. -/
def interaction : EntitySchema where
  name := "Interaction"
  tableName := "Interaction"
  description := "Customer interaction history"
  identifierField := "id"
  fields :=
    [describedField "id" .integer "Interaction identifier",
     describedField "customer_id" .string "Customer the interaction belongs to",
     describedField "summary" .string "Short summary of the interaction",
     describedField "channel" .string "email, phone or chat",
     describedField "timestamp" .datetime "When the interaction happened"]
  allowedFilterFields := ["summary", "channel", "timestamp"]
  defaultOrderBy := some "timestamp DESC"
  relationships := [relatedTo "CustomerProfile" "customer_id" none .manyToOne]

/-- All entities of the domain. -/
def customerEntities : List EntitySchema :=
  [customerProfile, subscription, product, interaction]

/-- The registry of the domain, with the usual caps. -/
def customerRegistry : Registry where
  entities := customerEntities.map fun entity => (entity.key, entity)
  defaultLimit := 100
  maxLimit := 1000

end Joinery
