import Joinery.Proofs.Database.Sorting
import Joinery.Proofs.Schema.Relationships
import Joinery.Proofs.Service.Execution
import Joinery.Proofs.Value.Equality

/-! Answers are worked out by evaluation where the joined rows come in order already. -/

namespace Joinery

deriving instance DecidableEq for QueryResult

/-- The answer of a plan whose joined rows need no sorting. -/
def Plan.answerInOrder (plan : Plan) (database : Database) : Except Misuse QueryResult :=
  let sources := plan.statement.sources database plan.parameters
  let fetched : Except DatabaseFault (List FetchedRow) := do
    plan.statement.check database plan.parameters
    (capRows plan.statement.cap (plan.statement.joinedRows database plan.parameters)).mapM
      (fetchRow plan.statement.columns plan.resultTypes sources)
  match fetched with
  | .error fault => .ok (.failed (plan.faultMessage (.failed fault)) plan.warningTexts)
  | .ok rows => plan.materialize (rows.map .map)

/-- Rows that come in order are only cut off. -/
theorem Statement.resultRows_of_sorted {statement : Statement} {database : Database}
    {parameters : List Parameter}
    (sorted : (statement.joinedRows database parameters).Pairwise fun a b =>
      statement.sortedBefore (statement.sources database parameters) a b = true) :
    statement.resultRows database parameters =
      capRows statement.cap (statement.joinedRows database parameters) := by
  -- The sorting is stable, so it leaves sorted rows alone.
  rw [resultRows, List.mergeSort_of_pairwise sorted]

/-- Sorting can be left out where the joined rows come in order. -/
theorem Service.execute_eq_answerInOrder {service : Service} {query : Query} {plan : Plan}
    (planned : service.registry.plan query = .ok plan)
    (sorted : (plan.statement.joinedRows service.database plan.parameters).Pairwise fun a b =>
      plan.statement.sortedBefore
        (plan.statement.sources service.database plan.parameters) a b = true) :
    service.execute query .quiet = plan.answerInOrder service.database := by
  simp only [Service.execute, planned, carryOut, Plan.answer, Plan.execute, CancelSignal.settle,
    Plan.run, Statement.resultRows_of_sorted sorted, Plan.answerInOrder]
  -- Rows and faults become the answer in the same way.
  split <;> rename_i ran
  · split at ran <;> simp_all
  · split at ran <;> simp_all

/-- What evaluation finds about a plan: its joined rows come in order, all of them, and make an answer. -/
structure Plan.AnswersInOrder (plan : Plan) (database : Database) (result : QueryResult) : Prop where
  /-- The joined rows need no sorting. -/
  sorted : (plan.statement.joinedRows database plan.parameters).Pairwise fun a b =>
    plan.statement.sortedBefore (plan.statement.sources database plan.parameters) a b = true
  /-- They are not cut off. -/
  complete : (plan.statement.joinedRows database plan.parameters).length ≤ plan.statement.cap
  /-- They make the answer. -/
  answered : plan.answerInOrder database = .ok result

instance (plan : Plan) (database : Database) (result : QueryResult) :
    Decidable (plan.AnswersInOrder database result) :=
  decidable_of_iff (_ ∧ _ ∧ _) ⟨fun ⟨sorted, complete, answered⟩ => ⟨sorted, complete, answered⟩,
    fun ⟨sorted, complete, answered⟩ => ⟨sorted, complete, answered⟩⟩

/-- What evaluation finds is the answer of the service. -/
theorem Plan.AnswersInOrder.executed {service : Service} {query : Query} {plan : Plan}
    {result : QueryResult} (found : plan.AnswersInOrder service.database result)
    (planned : service.registry.plan query = .ok plan) :
    service.execute query .quiet = .ok result :=
  (Service.execute_eq_answerInOrder planned found.sorted).trans found.answered

/-- The document of owners and their pets. -/
def petDocument : Value :=
  .map [("entities", .map [
    ("Owner", entityDocument "owner" [("id", "string"), ("city", "string")] ["id", "city"] .null
      [("Pet", .map [("foreignKey", .text "id"), ("localKey", .text "owner")])]),
    ("Pet", entityDocument "pet"
      [("id", "integer"), ("owner", "string"), ("name", "string"), ("age", "integer")]
      ["name", "age"] (.text "age DESC") [])])]

/-- The registry of owners and their pets. -/
def petRegistry : Registry := (Registry.ofDocument petDocument).toOption.get (by decide +kernel)

/-- Two owners, the first one with two pets. -/
def petDatabase : Database :=
  ⟨[⟨"owner", ⟨[⟨"id", .text⟩, ⟨"city", .text⟩],
      [[.text "A", .text "Rome"], [.text "B", .text "Oslo"]], by decide⟩⟩,
    ⟨"pet", ⟨[⟨"id", .numeric⟩, ⟨"owner", .text⟩, ⟨"name", .text⟩, ⟨"age", .numeric⟩],
      [[.integer 1, .text "A", .text "Ada", .integer 5],
       [.integer 2, .text "A", .text "Bix", .integer 3],
       [.integer 3, .text "B", .text "Cid", .integer 2]], by decide⟩⟩], by decide⟩

/-- The service of owners and their pets. -/
def petService : Service := ⟨petRegistry, petDatabase, 900⟩

/-- The registry of the service was read from the document. -/
theorem petService_read : Registry.ofDocument petDocument = .ok petService.registry := by
  -- The registry is what the reading gives.
  exact eq_ok_get (by decide +kernel)

/-- A query of both owners with those of their pets that a filter describes. -/
def petQuery (pets : Option Filter) : Query where
  primary := .text "Owner"
  filter := some ⟨[("id", .map [("$in", .list [.text "A", .text "B"])])], none⟩
  related := [⟨.text "Pet", pets, .null⟩]
  selectedEntities := []
  selectedFields := []
  maxRows := .null

/-- The plan of the query of all pets. -/
def petPlan : Plan := (petService.registry.plan (petQuery none)).toOption.get (by decide +kernel)

/-- The query of all pets has its plan. -/
theorem petPlan_planned : petService.registry.plan (petQuery none) = .ok petPlan := by
  -- The plan is what planning gives.
  exact eq_ok_get _

/-- The joins of the query of all pets. -/
def petOrder : JoinOrder :=
  (JoinOrder.ofRequests petService.registry petPlan.primary
    (petQuery none).related).toOption.get (by decide +kernel)

/-- The requests of the query of all pets have their joins. -/
theorem petOrder_ordered : JoinOrder.ofRequests petService.registry petPlan.primary
    (petQuery none).related = .ok petOrder := by
  -- The joins are what ordering gives.
  exact eq_ok_get _

/-- The join of the pets. -/
def petStep : JoinStep := petOrder.steps.head (by decide +kernel)

/-- The pets are joined. -/
theorem petStep_joined : petStep ∈ petOrder.steps := by
  -- Theirs is the first join.
  exact List.head_mem _

/-- The record of a pet. -/
def petRecord (id : Int) (owner name : String) (age : Int) : Record :=
  [("id", .int id), ("owner", .text owner), ("name", .text name), ("age", .int age)]

/-- The record of the first owner. -/
def ownerRecord : Record := [("id", .text "A"), ("city", .text "Rome")]

/-- The pets of both owners. -/
def petItems : List Value :=
  [.map (petRecord 1 "A" "Ada" 5), .map (petRecord 2 "A" "Bix" 3), .map (petRecord 3 "B" "Cid" 2)]

/-- The answer to the query of all pets: the first owner, and the pets of both. -/
def petResult : QueryResult where
  success := true
  error := none
  data := [("owner", .map ownerRecord), ("pet", .list petItems)]
  counts := [("owner", 1), ("pet", 3)]
  warnings := []

/-- The query of all pets has its answer. -/
theorem petResult_executed : petService.execute (petQuery none) .quiet = .ok petResult := by
  -- The rows come owner by owner and pet by pet, as they are sorted.
  rw [Service.execute_eq_answerInOrder petPlan_planned (by decide +kernel)]
  decide +kernel

end Joinery
