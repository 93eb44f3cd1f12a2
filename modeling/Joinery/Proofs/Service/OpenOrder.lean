import Joinery.Customers.Indexes
import Joinery.Proofs.Database.Ties
import Joinery.Proofs.Plan.Sorting
import Joinery.Proofs.Service.Running

/-! Queries whose plans leave no order of rows open are answered alike by every engine. -/

namespace Joinery

variable {service : Service} {query : Query} {engine : Engine} {plan : Plan} {signal : CancelSignal}

/-- An engine that comes across rows as they are stored carries out statements like the database does. -/
theorem Engine.run_stored (database : Database) (plan : Plan) :
    Engine.stored.run database plan = plan.run database := by
  -- Both engines have the same sources, ranked or not.
  have sources : Engine.stored.sources database plan.statement plan.parameters =
      plan.statement.sources database plan.parameters :=
    Engine.sources_eq fun numbered _ => by
      simp only [Engine.source, Join.source]
      cases numbered.1.ranking <;> rfl
  simp only [run, Plan.run, resultRows, joinedRows, sources]
  rfl

/-- The service answers queries like an engine that comes across rows as they are stored. -/
theorem Service.executeOn_stored (service : Service) (query : Query) (signal : CancelSignal) :
    service.executeOn .stored query signal = service.execute query signal := by
  simp only [executeOn, execute, carryOut, Plan.execute, Engine.run_stored]

/-- A query whose plan leaves no order of rows open has one answer, whatever engine there is. -/
theorem Service.executeOn_eq (engine : Engine)
    (untied : ∀ plan, service.registry.plan query = .ok plan →
      plan.statement.Untied service.database plan.parameters) :
    service.executeOn engine query signal = service.execute query signal := by
  -- Only a planned query meets the engine.
  rw [executeOn, execute]
  cases planned : service.registry.plan query with
  | error fault => rfl
  | ok plan => simp only [carryOut, Plan.execute, (untied plan planned).run engine]

/-- Sources that tell their rows apart leave no order of joined rows open. -/
theorem Planning.SourcesApart.untied {registry : Registry} {parts : Planning registry query}
    {database : Database} (apart : parts.SourcesApart database)
    (ranked : ∀ join ∈ parts.plan.statement.joins, ∀ ranking ∈ join.ranking,
      (database.tableOrEmpty join.table).Untied ranking parts.plan.parameters) :
    parts.plan.statement.Untied database parts.plan.parameters :=
  ⟨ranked, pairwise_sortKey apart⟩

/-- Sorting can be left out where an engine comes across the joined rows in order. -/
theorem Service.executeOn_of_sorted (planned : service.registry.plan query = .ok plan)
    (sorted : (engine.joinedRows service.database plan.statement plan.parameters).Pairwise
      fun a b => plan.statement.sortedBefore
        (engine.sources service.database plan.statement plan.parameters) a b = true) :
    service.executeOn engine query signal = plan.answer (signal.settle do
      plan.statement.check service.database plan.parameters
      (capRows plan.statement.cap
          (engine.joinedRows service.database plan.statement plan.parameters)).mapM
        (fetchRow plan.statement.columns plan.resultTypes
          (engine.sources service.database plan.statement plan.parameters))) := by
  -- What is sorted already stays as it is.
  simp only [executeOn, planned, Engine.run, Engine.resultRows, List.mergeSort_of_pairwise sorted]

/-- The document of customers who count as one when they share an address. -/
def addresseeDocument : Value :=
  .map [("entities", .map [("Customer", .map [("tableName", .text "CustomerProfile"),
    ("identifierField", .text "email"),
    ("fields", .map [("email", .map [("type", .text "string")]),
      ("customer_id", .map [("type", .text "string")])]),
    ("allowedFilterFields", .texts ["customer_id", "email"])])])]

/-- Two customers who share an address, the second one stored first. -/
def addresseeDatabase : Database :=
  Database.empty.createCustomerTables.put "CustomerProfile" ⟨customerTable.columns.map (·.column),
    [[.text "C2", .text "Bea", .text "desk@example.com", .null, .text "2025-01-15 00:00:00.000000"],
     [.text "C1", .text "Ada", .text "desk@example.com", .null, .text "2025-01-15 00:00:00.000000"]],
    by decide⟩

/-- The service of those customers. -/
def addresseeService : Service :=
  ⟨(Registry.ofDocument addresseeDocument).toOption.get (by decide +kernel), addresseeDatabase, 900⟩

/-- The answer that consists of one of the two customers. -/
def addresseeResult (identifier : String) : QueryResult where
  success := true
  error := none
  data := [("customer",
    .map [("email", .text "desk@example.com"), ("customer_id", .text identifier)])]
  counts := [("customer", 1)]
  warnings := []

end Joinery
