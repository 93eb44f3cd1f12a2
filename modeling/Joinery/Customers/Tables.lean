import Joinery.Database.Storage

/-! The tables of the customer domain. -/

namespace Joinery

/-- A column that every row fills. -/
def requiredColumn (name : String) (type : SemanticType) : ColumnDefinition :=
  ⟨name, type, true, .nothing⟩

/-- A column that rows may leave empty. -/
def optionalColumn (name : String) (type : SemanticType) : ColumnDefinition :=
  ⟨name, type, false, .nothing⟩

/-- The table of the customers. -/
def customerTable : TableDefinition where
  name := "CustomerProfile"
  key := "customer_id"
  numbered := false
  columns :=
    [requiredColumn "customer_id" .string,
     requiredColumn "name" .string,
     requiredColumn "email" .string,
     optionalColumn "phone" .string,
     ⟨"created_at", .datetime, true, .clock⟩]

/-- The table of the plans that customers hold. -/
def subscriptionTable : TableDefinition where
  name := "Subscription"
  key := "id"
  numbered := true
  columns :=
    [requiredColumn "id" .integer,
     requiredColumn "customer_id" .string,
     requiredColumn "plan_name" .string,
     requiredColumn "status" .string,
     requiredColumn "start_date" .datetime,
     optionalColumn "end_date" .datetime]

/-- The table of the products on subscriptions. -/
def productTable : TableDefinition where
  name := "Product"
  key := "id"
  numbered := true
  columns :=
    [requiredColumn "id" .integer,
     requiredColumn "subscription_id" .integer,
     requiredColumn "product_name" .string,
     requiredColumn "sku" .string,
     ⟨"quantity", .integer, true, .constant (.int 1)⟩,
     ⟨"price", .decimal, true, .constant (.decimal (.ofInt 0))⟩]

/-- The table of what was talked about with customers. -/
def interactionTable : TableDefinition where
  name := "Interaction"
  key := "id"
  numbered := true
  columns :=
    [requiredColumn "id" .integer,
     requiredColumn "customer_id" .string,
     requiredColumn "summary" .string,
     requiredColumn "channel" .string,
     requiredColumn "timestamp" .datetime]

/-- All tables of the domain. -/
def customerTables : List TableDefinition :=
  [customerTable, subscriptionTable, productTable, interactionTable]

/-- The table of a name. -/
def customerTable? (name : String) : Option TableDefinition :=
  customerTables.find? (·.name == name)

/-- The database with the tables of the domain; those that it has already stay as they are. -/
def Database.createCustomerTables (database : Database) : Database :=
  database.createAll customerTables

/-- The number of rows in each table of the domain, in the order of the tables' names. -/
def Database.customerCounts (database : Database) : Except StorageFault (List Nat) :=
  [customerTable, interactionTable, productTable, subscriptionTable].mapM fun definition =>
    database.count definition.name

end Joinery
