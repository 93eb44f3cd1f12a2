import Joinery.Proofs.Service.PrimaryRecord

/-! Records of a directly joined entity belong to admitted primary rows, not always to the returned one. -/

namespace Joinery

variable {service : Service} {query : Query} {step : JoinStep} {rows : List FetchedRow}
  {gathering : Gathering} {result : QueryResult} {branch : Branch}
  {parts : Planning service.registry query}

/-- Whether a row that a join can match has the value of a primary row in the fields that join the two. -/
def Join.agrees (join : Join) (database : Database) (parameters : List Parameter)
    (primary entity : EntitySchema) (primaryRow row : Row) : Bool :=
  let keys := joinKeys primary entity
  columnsAgree (join.source database parameters) (readBack keys.child) (database.recordsOf primary)
    (readBack keys.parent) row primaryRow

/-- Whether all admitted primary rows have the value of a row in the field that joins an entity. -/
def OneJoinValue (database : Database) (primary entity : EntitySchema) (filter : Option Filter)
    (row : Row) : Prop :=
  -- One admitted row alone has one value in every field.
  ∀ other, Admitted database primary filter other →
    (database.recordsOf primary).cell (readBack (joinKeys primary entity).parent) other =
      (database.recordsOf primary).cell (readBack (joinKeys primary entity).parent) row

/-- Whether the primary record of a result was read from an admitted row. -/
def QueryResult.ReturnsPrimary (result : QueryResult) (database : Database) (plan : Plan)
    (filter : Option Filter) (row : Row) : Prop :=
  Admitted database plan.primary filter row ∧
    ∃ record, plan.primary.readRow (database.recordsOf plan.primary) row = .ok record ∧
      -- The record is told with the fields that the plan keeps.
      result.data.get? plan.primary.key = some (.map (plan.project plan.primary.key record))

/-- A row that a directly joined entity is reached by agrees with an admitted primary row. -/
theorem Planning.exists_agreeing (parts : Planning service.registry query)
    (loaded : service.registry.Loaded) {i : Nat} {join : Join}
    (at_ : parts.order.steps[i]? = some step)
    (placed : parts.plan.statement.joins[i]? = some join) (direct : step.parent = parts.primary)
    {row : Row} (reached : parts.plan.statement.Reaches service.database parts.plan.parameters
      (i + 1) row) :
    row ∈ (join.source service.database parts.plan.parameters).rows ∧
      ∃ primaryRow, Admitted service.database parts.primary query.filter primaryRow ∧
        join.agrees service.database parts.plan.parameters parts.primary step.entity primaryRow row =
          true := by
  -- The parent's source is the primary one, so the last link of the chain is a primary row.
  obtain ⟨predicates, found, _⟩ := parts.join_at at_
  cases placed.symm.trans found
  have source : sourceOf parts.order.steps step.parent = 0 := by
    have parent := parts.parent_entity loaded at_
    rw [direct] at parent
    exact direct ▸ parts.entities_unique parent (rfl : parts.entities[0]? = some parts.primary) rfl
  cases reached with
  | @joined _ other parentRow _ atOther parent member linked =>
    cases placed.symm.trans atOther
    refine ⟨member, parentRow, ?_, ?_⟩
    · rw [planJoin_parent, source] at parent
      cases parent with
      | primary inside => exact parts.mem_primaryRows.mp inside
    · rw [Join.links, Bool.and_eq_true, planJoin_parent, planJoin_key, source, direct] at linked
      exact linked.1

/-- A row agrees with every admitted primary row when they all have one value in the joining field. -/
theorem Join.agrees_of_oneJoinValue {join : Join} {database : Database}
    {parameters : List Parameter} {primary entity : EntitySchema} {filter : Option Filter}
    {primaryRow other row : Row} (one : OneJoinValue database primary entity filter primaryRow)
    (admitted : Admitted database primary filter other)
    (agrees : join.agrees database parameters primary entity other row = true) :
    join.agrees database parameters primary entity primaryRow row = true := by
  -- Only the value in the joining field is compared.
  simp only [Join.agrees, columnsAgree] at agrees ⊢
  rw [← one other admitted]
  exact agrees

/-- When a branch has a record, the result returns the record of an admitted primary row. -/
theorem Service.Answered.exists_primary
    (answered : service.Answered query parts.plan rows gathering result)
    (distinct : (parts.plan.statement.columns.map (·.label)).Nodup)
    (kept : parts.plan.keeps parts.primary.key = true) {entity : EntitySchema}
    (gathered : branch.Gathered entity rows) {record : Record} (member : record ∈ branch.records) :
    ∃ row, result.ReturnsPrimary service.database parts.plan query.filter row := by
  -- The record came with a returned row, so there is a first one.
  obtain ⟨_, fetched, inside, _⟩ := gathered.origin record member
  obtain ⟨joined, returned, _⟩ := exists_left_of_aligned answered.fetched inside
  cases first : (parts.plan.statement.resultRows service.database parts.plan.parameters).head? with
  | none =>
    rw [List.head?_eq_none_iff.mp first] at returned
    contradiction
  | some joined =>
    obtain ⟨primaryRecord, read, primary⟩ := answered.primary_of_head distinct first
    have admitted := parts.admitted_of_joined
      (Statement.mem_joinedRows_of_mem_resultRows (List.mem_of_head? first))
    have told := answered.get? List.mem_cons_self
    simp only [Gathering.primarySection, primary] at told
    exact ⟨_, admitted, primaryRecord, read, (told kept).1⟩

/--
A record of a directly joined entity agrees with an admitted primary row in the joining fields.

It agrees with the returned one when all admitted primary rows have one value in the joining field.
-/
theorem Service.direct_records_belong {document : Value} {signal : CancelSignal} {plan : Plan}
    {order : JoinOrder} {i : Nat} {join : Join} {items : List Value} {item : Value}
    (read : Registry.ofDocument document = .ok service.registry)
    (planned : service.registry.plan query = .ok plan)
    (ordered : JoinOrder.ofRequests service.registry plan.primary query.related = .ok order)
    (distinct : (plan.statement.columns.map (·.label)).Nodup)
    (executed : service.execute query signal = .ok result) (succeeded : result.success = true)
    (at_ : order.steps[i]? = some step) (placed : plan.statement.joins[i]? = some join)
    (direct : step.parent = plan.primary) (keptPrimary : plan.keeps plan.primary.key = true)
    (kept : plan.keeps step.entity.key = true)
    (listed : result.data.get? step.entity.key = some (.list items)) (member : item ∈ items) :
    ∃ record row primaryRow, item = .map (plan.project step.entity.key record) ∧
      row ∈ (join.source service.database plan.parameters).rows ∧
      step.entity.readRow (join.source service.database plan.parameters) row = .ok record ∧
      result.ReturnsPrimary service.database plan query.filter primaryRow ∧
      (∃ other, Admitted service.database plan.primary query.filter other ∧ join.agrees
        service.database plan.parameters plan.primary step.entity other row = true) ∧
      (OneJoinValue service.database plan.primary step.entity query.filter primaryRow →
        join.agrees service.database plan.parameters plan.primary step.entity primaryRow row =
          true) := by
  -- The record was read from a reached row, and the primary record from the first returned one.
  have loaded := Registry.loaded_of_ofDocument read
  obtain ⟨parts, rfl⟩ := Registry.plan_ok planned
  cases parts.ordered.symm.trans ordered
  obtain ⟨_, rows, gathering, answered⟩ := Service.answered_of_execute executed succeeded
  cases planned.symm.trans answered.planned
  obtain ⟨branch, gathered, found⟩ := answered.related (List.mem_of_getElem? at_) kept
  cases found.symm.trans listed
  obtain ⟨record, inside, rfl⟩ := List.mem_map.mp member
  have declared := parts.declares_identifier loaded (List.mem_of_getElem? (parts.entity_at at_))
  obtain ⟨row, reached, readRow⟩ := answered.record_origin distinct at_ declared gathered inside
  rw [Statement.sourceAt_succ placed] at readRow
  obtain ⟨among, other, admitted, agrees⟩ := parts.exists_agreeing loaded at_ placed direct reached
  obtain ⟨primaryRow, returned⟩ := answered.exists_primary distinct keptPrimary gathered inside
  exact ⟨record, row, primaryRow, rfl, among, readRow, returned, ⟨other, admitted, agrees⟩,
    fun one => Join.agrees_of_oneJoinValue one admitted agrees⟩

/-- The join of the pets in the statement. -/
def petJoin : Join := petPlan.statement.joins.head (by decide +kernel)

/-- The last pet belongs to an admitted owner, who is another one than the returned one. -/
theorem Service.last_pet_belongs :
    petService.execute (petQuery none) .quiet = .ok petResult ∧
    ∃ record row primaryRow,
      (Value.map (petRecord 3 "B" "Cid" 2) = .map (petPlan.project petStep.entity.key record)) ∧
      row ∈ (petJoin.source petService.database petPlan.parameters).rows ∧
      petStep.entity.readRow (petJoin.source petService.database petPlan.parameters) row =
        .ok record ∧
      petResult.ReturnsPrimary petService.database petPlan (petQuery none).filter primaryRow ∧
      (∃ other, Admitted petService.database petPlan.primary (petQuery none).filter other ∧
        petJoin.agrees petService.database petPlan.parameters petPlan.primary petStep.entity other
          row = true) ∧
      (OneJoinValue petService.database petPlan.primary petStep.entity (petQuery none).filter
          primaryRow →
        petJoin.agrees petService.database petPlan.parameters petPlan.primary petStep.entity
          primaryRow row = true) := by
  -- Every premise is evaluated, the list of pets among them.
  have at_ : petOrder.steps[0]? = some petStep := by
    rw [← List.head?_eq_getElem?]
    exact List.head?_eq_some_head _
  have listed : petResult.data.get? petStep.entity.key = some (.list petItems) := by decide +kernel
  have placed : petPlan.statement.joins[0]? = some petJoin := by decide +kernel
  exact ⟨petResult_executed, Service.direct_records_belong petService_read petPlan_planned
    petOrder_ordered (by decide +kernel) petResult_executed rfl at_ placed (by decide +kernel)
    (by decide +kernel) (by decide +kernel) listed (by decide +kernel)⟩

/-- The document of two entities whose columns have one label, and of a third one. -/
def clashDocument : Value :=
  .map [("entities", .map [
    ("P", entityDocument "p" [("id", "string"), ("q__x", "string")] ["id"] .null
      [("R", .map [("foreignKey", .text "q__x"), ("localKey", .text "owner")])]),
    ("P__Q", entityDocument "p__q" [("id", "string"), ("x", "string")] [] .null []),
    ("R", entityDocument "r" [("id", "string"), ("owner", "string")] [] .null [])])]

/-- The registry of the entities whose columns have one label. -/
def clashRegistry : Registry := (Registry.ofDocument clashDocument).toOption.get (by decide +kernel)

/-- One row of each entity, the third one belonging to the first. -/
def clashDatabase : Database :=
  ⟨[⟨"p", ⟨[⟨"id", .text⟩, ⟨"q__x", .text⟩], [[.text "1", .text "A"]], by decide⟩⟩,
    ⟨"p__q", ⟨[⟨"id", .text⟩, ⟨"x", .text⟩], [[.text "1", .text "B"]], by decide⟩⟩,
    ⟨"r", ⟨[⟨"id", .text⟩, ⟨"owner", .text⟩], [[.text "7", .text "A"]], by decide⟩⟩], by decide⟩

/-- The service of the entities whose columns have one label. -/
def clashService : Service := ⟨clashRegistry, clashDatabase, 900⟩

/-- A query of the one primary row with both other entities. -/
def clashQuery : Query where
  primary := .text "P"
  filter := some ⟨[("id", .text "1")], none⟩
  related := [⟨.text "R", none, .null⟩, ⟨.text "P__Q", none, .null⟩]
  selectedEntities := []
  selectedFields := []
  maxRows := .null

/-- The plan of the query. -/
def clashPlan : Plan := (clashService.registry.plan clashQuery).toOption.get (by decide +kernel)

/-- The answer to the query: the third row does not have the value that the first one shows. -/
def clashResult : QueryResult where
  success := true
  error := none
  data := [("p", .map [("id", .text "1"), ("q__x", .text "B")]),
    ("r", .list [.map [("id", .text "7"), ("owner", .text "A")]]),
    ("p__q", .list [.map [("id", .text "1"), ("x", .text "B")]])]
  counts := [("p", 1), ("r", 1), ("p__q", 1)]
  warnings := []

/--
A listed record need not agree with the returned primary record.

The last pet belongs to an owner who is not returned, as two owners are admitted.
Where a column hides another one, the primary record itself shows a value that is not its own.
-/
theorem Service.record_of_another_primary :
    (petService.execute (petQuery none) .quiet = .ok petResult ∧
      petStep.parent = petPlan.primary ∧
      joinKeys petPlan.primary petStep.entity = ⟨"id", "owner"⟩ ∧
      petResult.data.get? petPlan.primary.key = some (.map ownerRecord) ∧
      petResult.data.get? petStep.entity.key = some (.list petItems) ∧
      .map (petRecord 3 "B" "Cid" 2) ∈ petItems ∧ ownerRecord.get? "id" = some (.text "A") ∧
      (petRecord 3 "B" "Cid" 2).get? "owner" = some (.text "B")) ∧
    (clashService.execute clashQuery .quiet = .ok clashResult ∧
      (clashPlan.related.map fun entity => joinKeys clashPlan.primary entity) =
        [⟨"q__x", "owner"⟩, ⟨"id", "id"⟩] ∧
      clashResult.data.get? "p" = some (.map [("id", .text "1"), ("q__x", .text "B")]) ∧
      clashResult.data.get? "r" = some (.list [.map [("id", .text "7"), ("owner", .text "A")]])) := by
  -- Both answers are evaluated.
  have planned : clashService.registry.plan clashQuery = .ok clashPlan := eq_ok_get _
  refine ⟨⟨petResult_executed, by decide +kernel, by decide +kernel, by decide +kernel,
    by decide +kernel, by decide +kernel, by decide +kernel, by decide +kernel⟩, ?_,
    by decide +kernel, by decide +kernel, by decide +kernel⟩
  rw [Service.execute_eq_answerInOrder planned (by decide +kernel)]
  decide +kernel

end Joinery
