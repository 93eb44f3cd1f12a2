import Joinery.Proofs.Service.ReachedRecords
import Joinery.Proofs.Service.Running

/-! Without caps an answer lists every connected record of a related entity once, and no other. -/

namespace Joinery

variable {service : Service} {query : Query} {step : JoinStep} {rows : List FetchedRow}
  {gathering : Gathering} {result : QueryResult} {branch : Branch}

/-- What a plan needs to list related records exactly: no caps, and identifiers that tell rows apart. -/
structure Planning.Exact (parts : Planning service.registry query) : Prop where
  /-- The registry was read from a document. -/
  loaded : service.registry.Loaded
  /-- No column hides another one. -/
  distinct : (parts.plan.statement.columns.map (·.label)).Nodup
  /-- Every row is wanted for each parent. -/
  uncapped : ∀ step ∈ parts.order.steps, service.registry.entityLimit step.filter = none
  /-- The identifiers of the joined tables tell their rows apart. -/
  identified : ∀ step ∈ parts.order.steps,
    step.entity.Identified (service.database.recordsOf step.entity)
  /-- The joined rows are not cut off. -/
  complete : (parts.plan.statement.joinedRows service.database parts.plan.parameters).length ≤
    parts.plan.statement.cap

variable {parts : Planning service.registry query}

/-- Without caps the identifiers that a step needs are those of its table. -/
theorem Planning.Exact.listing (exact_ : parts.Exact) {i : Nat}
    (at_ : parts.order.steps[i]? = some step) : parts.Listing i step where
  at_ := at_
  declared := parts.declares_identifier exact_.loaded (List.mem_of_getElem? (parts.entity_at at_))
  distinct := exact_.distinct
  identified := by
    rw [parts.source_uncapped _ exact_.uncapped (parts.entity_at at_)]
    exact exact_.identified step (List.mem_of_getElem? at_)
  complete := exact_.complete

/-- Without caps the reached rows of a step are the connected ones. -/
theorem Planning.Exact.reaches_iff (exact_ : parts.Exact) {i : Nat}
    (at_ : parts.order.steps[i]? = some step) (row : Row) :
    parts.plan.statement.Reaches service.database parts.plan.parameters (i + 1) row ↔
      Connected service.database parts.primary query.filter parts.order.steps step.entity row := by
  -- Both relations follow the joins from a primary row.
  constructor
  · exact fun reached => parts.connected_of_reaches exact_.loaded exact_.uncapped reached
      (parts.entity_at at_)
  · intro connected
    obtain ⟨source, atSource, reached⟩ :=
      parts.reaches_of_connected exact_.loaded exact_.uncapped connected
    -- The place of an entity is told by its name.
    cases parts.entities_unique atSource (parts.entity_at at_) rfl
    exact reached

/-- The records of a branch are those of the connected rows, row by row. -/
theorem Planning.Exact.branch_records (exact_ : parts.Exact)
    (answered : service.Answered query parts.plan rows gathering result) {i : Nat}
    (at_ : parts.order.steps[i]? = some step) (gathered : branch.Gathered step.entity rows) :
    ∃ found : List Row, found.Nodup ∧
      (∀ row, row ∈ found ↔ Connected service.database parts.primary query.filter
        parts.order.steps step.entity row) ∧
      List.Forall₂ (fun row record => step.entity.readRow (service.database.recordsOf step.entity)
        row = .ok record) found branch.records := by
  -- The reached rows are the connected ones, and the source is the whole table.
  obtain ⟨found, once, reached, aligned⟩ := (exact_.listing at_).branch_records answered gathered
  rw [parts.source_uncapped _ exact_.uncapped (parts.entity_at at_)] at aligned
  exact ⟨found, once, fun row => (reached row).trans (exact_.reaches_iff at_ row), aligned⟩

/--
Without caps an answer lists, for every related entity, the records of the connected rows.

The rows are listed once each, and a row is connected when a chain of parents leads to the primary rows.
-/
theorem Service.related_records_exact {document : Value} {signal : CancelSignal} {plan : Plan}
    {order : JoinOrder} (read : Registry.ofDocument document = .ok service.registry)
    (planned : service.registry.plan query = .ok plan)
    (ordered : JoinOrder.ofRequests service.registry plan.primary query.related = .ok order)
    (distinct : (plan.statement.columns.map (·.label)).Nodup)
    (uncapped : ∀ request ∈ query.related, service.registry.entityLimit request.filter = none)
    (identified : ∀ entity ∈ plan.related,
      entity.Identified (service.database.recordsOf entity))
    (complete : (plan.statement.joinedRows service.database plan.parameters).length ≤
      plan.statement.cap)
    (executed : service.execute query signal = .ok result) (succeeded : result.success = true)
    (member : step ∈ order.steps) (kept : plan.keeps step.entity.key = true) :
    ∃ rows records, rows.Nodup ∧
      (∀ row, row ∈ rows ↔
        Connected service.database plan.primary query.filter order.steps step.entity row) ∧
      List.Forall₂ (fun row record =>
        step.entity.readRow (service.database.recordsOf step.entity) row = .ok record)
        rows records ∧
      result.data.get? step.entity.key =
        some (.list (records.map fun record => .map (plan.project step.entity.key record))) := by
  -- The plan is made of parts, and its order is the one that was found for the requests.
  obtain ⟨parts, rfl⟩ := Registry.plan_ok planned
  cases parts.ordered.symm.trans ordered
  obtain ⟨_, rows, gathering, answered⟩ := Service.answered_of_execute executed succeeded
  cases planned.symm.trans answered.planned
  have exact_ : parts.Exact := by
    refine ⟨Registry.loaded_of_ofDocument read, distinct, fun step inside => ?_,
      fun step inside => identified step.entity (List.mem_map.mpr ⟨step, inside, rfl⟩), complete⟩
    obtain ⟨request, asked, _, same⟩ := parts.sound.requested step inside
    exact same ▸ uncapped request asked
  obtain ⟨i, at_⟩ := List.mem_iff_getElem?.mp member
  obtain ⟨branch, gathered, found⟩ := answered.related member kept
  obtain ⟨connected, once, exactly_, aligned⟩ := exact_.branch_records answered at_ gathered
  exact ⟨connected, branch.records, once, exactly_, aligned, found⟩

/-- The pets of both owners are listed once each. -/
theorem Service.pets_exact : petService.execute (petQuery none) .quiet = .ok petResult ∧
    ∃ rows records, rows.Nodup ∧
      (∀ row, row ∈ rows ↔ Connected petService.database petPlan.primary (petQuery none).filter
        petOrder.steps petStep.entity row) ∧
      List.Forall₂ (fun row record =>
        petStep.entity.readRow (petService.database.recordsOf petStep.entity) row = .ok record)
        rows records ∧
      petResult.data.get? petStep.entity.key =
        some (.list (records.map fun record => .map (petPlan.project petStep.entity.key record))) := by
  -- Every premise is evaluated, and the identifiers are numbers that the database tells apart.
  have identified : ∀ entity ∈ petPlan.related,
      entity.Identified (petService.database.recordsOf entity) := by
    intro entity member
    have only : petPlan.related = [petStep.entity] := by decide +kernel
    cases List.mem_singleton.mp (only ▸ member)
    exact EntitySchema.identified_of_cells (by decide +kernel) (by decide +kernel)
      (by decide +kernel)
  exact ⟨petResult_executed, Service.related_records_exact petService_read petPlan_planned
    petOrder_ordered (by decide +kernel) (by decide +kernel) identified (by decide +kernel)
    petResult_executed rfl petStep_joined (by decide +kernel)⟩

end Joinery
