import Joinery.Proofs.Plan.Replacing
import Joinery.Proofs.Service.ReachedRecords
import Joinery.Proofs.Service.Running
import Mathlib.Data.List.Perm.Basic

/-! Another filter on one related entity changes the records of that entity and of those below it only. -/

namespace Joinery

/-- The records that a result lists for an entity, none where it has no list of them. -/
def QueryResult.listed (result : QueryResult) (key : String) : List Value :=
  match result.data.get? key with
  | some (.list items) => items
  | _ => []

variable {service : Service} {query asked : Query} {step : JoinStep} {rows more : List FetchedRow}
  {gathering gatheringToo : Gathering} {result changed : QueryResult} {i : Nat} {key : String}

/-- A result lists records of entities that are kept only. -/
theorem Service.Answered.listed_eq_nil {plan : Plan}
    (answered : service.Answered query plan rows gathering result)
    (dropped : plan.keeps key = false) : result.listed key = [] := by
  -- There is no list under the key.
  rw [QueryResult.listed, answered.get?_of_dropped dropped]

/-- The identifiers of a table tell apart the rows of it that a join can match, capped or not. -/
theorem Planning.identified_source {registry : Registry} (parts : Planning registry query)
    {database : Database} (at_ : parts.order.steps[i]? = some step)
    (column : (database.recordsOf step.entity).hasColumn
      (readBack step.entity.identifierField) = true)
    (identified : step.entity.Identified (database.recordsOf step.entity)) :
    step.entity.Identified (sourceAt
      (parts.plan.statement.sources database parts.plan.parameters) (i + 1)) := by
  -- A cap takes some of the rows of the table, and adds their ranks.
  obtain ⟨predicates, found, _⟩ := parts.join_at at_
  rw [Statement.sourceAt_succ found]
  unfold planJoin
  split
  · exact identified
  · exact identified.ranked column _

variable {parts : Planning service.registry query} {other : Planning service.registry asked}

/-- Plans of queries that select the same entities keep the same ones. -/
theorem Planning.keeps_congr (parts : Planning service.registry query)
    (other : Planning service.registry asked)
    (selected : asked.selectedEntities = query.selectedEntities) :
    other.plan.keeps = parts.plan.keeps := by
  -- What is kept is read from the selection, in the letters that plans keep.
  have same : other.plan.selectedEntities = parts.plan.selectedEntities :=
    congrArg (List.map lowered) selected
  funext name
  rw [Plan.keeps, Plan.keeps, same]

/-- Plans of queries that select the same fields keep the same ones of each entity. -/
theorem Planning.project_congr (parts : Planning service.registry query)
    (other : Planning service.registry asked)
    (selected : asked.selectedFields = query.selectedFields) :
    other.plan.project = parts.plan.project := by
  -- What is left of a record is read from the selected fields.
  have same : other.plan.selectedFields = parts.plan.selectedFields := by
    simp only [Planning.plan, selected]
  funext name record
  rw [Plan.project, Plan.project, Plan.keptFields?, Plan.keptFields?, same]

/-- Where both plannings reach the same rows, their answers list the same records. -/
theorem Planning.DifferAt.listed_perm (differ : parts.DifferAt other key)
    (outside : ¬ step.Within parts.order.steps key) (listing : parts.Listing i step)
    (listingToo : other.Listing i step)
    (answered : service.Answered query parts.plan rows gathering result)
    (answeredToo : service.Answered asked other.plan more gatheringToo changed) :
    (changed.listed step.entity.key).Perm (result.listed step.entity.key) := by
  have inside := List.mem_of_getElem? listing.at_
  have keeps := congrFun (parts.keeps_congr other differ.selectedEntities) step.entity.key
  -- An entity that is not kept has no records in either answer.
  cases kept : parts.plan.keeps step.entity.key with
  | false =>
    rw [answered.listed_eq_nil kept, answeredToo.listed_eq_nil (keeps.trans kept)]
  | true =>
    obtain ⟨branch, gathered, found⟩ := answered.related inside kept
    obtain ⟨branchToo, gatheredToo, foundToo⟩ :=
      answeredToo.related (List.mem_of_getElem? listingToo.at_) (keeps.trans kept)
    obtain ⟨reached, once, exactly_, aligned⟩ := listing.branch_records answered gathered
    obtain ⟨reachedToo, onceToo, exactlyToo, alignedToo⟩ :=
      listingToo.branch_records answeredToo gatheredToo
    -- The source of the step is the same, and so are the rows that are reached there.
    have untouched : parts.Untouched key (i + 1) := by
      rintro j found same placed
      cases same
      cases listing.at_.symm.trans placed
      exact outside
    obtain ⟨short, _⟩ := List.getElem?_eq_some_iff.mp listing.at_
    rw [differ.sourceAt_eq untouched short] at alignedToo
    have same : reachedToo.Perm reached := by
      refine (List.perm_ext_iff_of_nodup onceToo once).mpr fun row => ?_
      rw [exactlyToo, exactly_]
      exact (differ.shares service.database).reaches_iff untouched row
    -- A record is what is read from its row, so the records go with the rows.
    have records : branchToo.records.Perm branch.records := by
      refine List.rel_perm_imp ?_ alignedToo aligned same
      intro row record recordToo read readToo
      exact Except.ok.inj (read.symm.trans readToo)
    simp only [QueryResult.listed, found, foundToo,
      parts.project_congr other differ.selectedFields]
    exact records.map _

/--
Another filter on one request leaves the records of all other branches as they are.

The entity of the request and those that are joined below it are left aside. What every other related
entity lists is the same up to order, as long as both queries come to an answer that is not cut off.
-/
theorem Service.other_branches_unchanged {place : Nat} {filter : Option Filter}
    {request : RelatedRequest} {entity : EntitySchema} {plan replaced : Plan} {order : JoinOrder}
    {signal later : CancelSignal} (faultless : service.registry.Faultless)
    (at_ : query.related[place]? = some request)
    (required : service.registry.require request.entity = .ok entity)
    (planned : service.registry.plan query = .ok plan)
    (replanned : service.registry.plan (query.refilter place filter) = .ok replaced)
    (ordered : JoinOrder.ofRequests service.registry plan.primary query.related = .ok order)
    (distinct : (plan.statement.columns.map (·.label)).Nodup)
    (member : step ∈ order.steps)
    (outside : ¬ step.Within order.steps entity.key)
    (column : (service.database.recordsOf step.entity).hasColumn
      (readBack step.entity.identifierField) = true)
    (identified : step.entity.Identified (service.database.recordsOf step.entity))
    (executed : service.execute query signal = .ok result) (succeeded : result.success = true)
    (complete : (plan.statement.joinedRows service.database plan.parameters).length ≤
      plan.statement.cap)
    (repeated : service.execute (query.refilter place filter) later = .ok changed)
    (succeededToo : changed.success = true)
    (completeToo : (replaced.statement.joinedRows service.database replaced.parameters).length ≤
      replaced.statement.cap) :
    (changed.listed step.entity.key).Perm (result.listed step.entity.key) := by
  obtain ⟨parts, rfl⟩ := Registry.plan_ok planned
  obtain ⟨other, rfl⟩ := Registry.plan_ok replanned
  cases parts.ordered.symm.trans ordered
  obtain ⟨_, rows, gathering, answered⟩ := Service.answered_of_execute executed succeeded
  cases planned.symm.trans answered.planned
  obtain ⟨_, more, gatheringToo, answeredToo⟩ := Service.answered_of_execute repeated succeededToo
  cases replanned.symm.trans answeredToo.planned
  have differ := parts.differAt_of_refilter other at_ required
  obtain ⟨i, placed⟩ := List.mem_iff_getElem?.mp member
  have placedToo := differ.step_at placed outside
  obtain ⟨name, known⟩ := parts.mem_entities member
  have declared := EntitySchema.declares_identifier (faultless.entities name _ known)
  -- Filters do not choose columns, so no label is hidden in the other plan either.
  have labels : (other.plan.statement.columns.map (·.label)).Nodup := by
    have columns : other.plan.statement.columns = parts.plan.statement.columns := by
      simp only [Planning.plan, differ.primary, plannedColumns_refiltered differ.steps]
    rwa [columns]
  have listing : parts.Listing i step := ⟨placed, declared, distinct,
    parts.identified_source placed column identified, complete⟩
  have listingToo : other.Listing i step := ⟨placedToo, declared, labels,
    other.identified_source placedToo column identified, completeToo⟩
  exact differ.listed_perm outside listing listingToo answered answeredToo

/-- The document of owners with cats and dogs. -/
def houseDocument : Value :=
  .map [("entities", .map [
    ("Owner", entityDocument "owner" [("id", "integer")] ["id"] .null
      [("Cat", .map [("foreignKey", .text "id"), ("localKey", .text "owner")]),
        ("Dog", .map [("foreignKey", .text "id"), ("localKey", .text "owner")])]),
    ("Cat", entityDocument "cat" [("id", "integer"), ("owner", "integer")] [] .null []),
    ("Dog", entityDocument "dog" [("id", "integer"), ("owner", "integer")] ["id"] .null [])])]

/-- One owner with two cats and two dogs. -/
def houseDatabase : Database :=
  ⟨[⟨"owner", ⟨[⟨"id", .numeric⟩], [[.integer 1]], by decide⟩⟩,
    ⟨"cat", ⟨[⟨"id", .numeric⟩, ⟨"owner", .numeric⟩],
      [[.integer 1, .integer 1], [.integer 2, .integer 1]], by decide⟩⟩,
    ⟨"dog", ⟨[⟨"id", .numeric⟩, ⟨"owner", .numeric⟩],
      [[.integer 3, .integer 1], [.integer 4, .integer 1]], by decide⟩⟩], by decide⟩

/-- The service of owners with cats and dogs. -/
def houseService : Service :=
  ⟨(Registry.ofDocument houseDocument).toOption.get (by decide +kernel), houseDatabase, 900⟩

/-- The registry of the service was read from the document. -/
theorem houseService_read : Registry.ofDocument houseDocument = .ok houseService.registry :=
  eq_ok_get (by decide +kernel)

/-- The query of the owner with all cats and dogs. -/
def houseQuery : Query where
  primary := .text "Owner"
  filter := some ⟨[("id", .int 1)], none⟩
  related := [⟨.text "Cat", none, .null⟩, ⟨.text "Dog", none, .null⟩]
  selectedEntities := []
  selectedFields := []
  maxRows := .null

/-- The query of the owner with all cats, and with a dog that is not there. -/
def doglessQuery : Query := houseQuery.refilter 1 (some ⟨[("id", .int 5)], none⟩)

/-- The answer to the query of the owner: both cats, and some dogs. -/
def houseResult (dogs : List Int) : QueryResult where
  success := true
  error := none
  data := [("owner", .map [("id", .int 1)]),
    ("cat", .list [.map [("id", .int 1), ("owner", .int 1)], .map [("id", .int 2), ("owner", .int 1)]]),
    ("dog", .list (dogs.map fun dog => .map [("id", .int dog), ("owner", .int 1)]))]
  counts := [("owner", 1), ("cat", 2), ("dog", dogs.length)]
  warnings := []

/-- The plan of the query of the owner with all cats and dogs. -/
def housePlan : Plan := (houseService.registry.plan houseQuery).toOption.get (by decide +kernel)

/-- The plan of the query without dogs. -/
def doglessPlan : Plan := (houseService.registry.plan doglessQuery).toOption.get (by decide +kernel)

/-- The joins of the query of the owner. -/
def houseOrder : JoinOrder :=
  (JoinOrder.ofRequests houseService.registry housePlan.primary
    houseQuery.related).toOption.get (by decide +kernel)

/-- The join of the cats. -/
def catStep : JoinStep := houseOrder.steps.head (by decide +kernel)

/-- The entity of dogs. -/
def dogEntity : EntitySchema :=
  (houseService.registry.require (.text "Dog")).toOption.get (by decide +kernel)

/-- Without dogs the same cats are listed. -/
theorem Service.cats_unchanged :
    houseService.execute houseQuery .quiet = .ok (houseResult [3, 4]) ∧
    houseService.execute doglessQuery .quiet = .ok (houseResult []) ∧
    ¬ catStep.Within houseOrder.steps dogEntity.key ∧
    ((houseResult []).listed catStep.entity.key).Perm ((houseResult [3, 4]).listed catStep.entity.key) := by
  -- The two queries differ in what is asked of the dogs.
  have asked : houseQuery.related[1]? = some ⟨.text "Dog", none, .null⟩ := rfl
  have dogs : houseService.registry.require (.text "Dog") = .ok dogEntity := eq_ok_get _
  have planned : houseService.registry.plan houseQuery = .ok housePlan := eq_ok_get _
  have replanned : houseService.registry.plan doglessQuery = .ok doglessPlan := eq_ok_get _
  have ordered : JoinOrder.ofRequests houseService.registry housePlan.primary houseQuery.related =
      .ok houseOrder := eq_ok_get _
  have faultless := (Registry.consistent_of_ofDocument houseService_read).faultless
  have joined : catStep ∈ houseOrder.steps := List.head_mem _
  have all : housePlan.AnswersInOrder houseDatabase (houseResult [3, 4]) := by decide +kernel
  have none : doglessPlan.AnswersInOrder houseDatabase (houseResult []) := by decide +kernel
  -- Cats hang from owners, whom no step joins.
  obtain ⟨named, free, column, present, plain, apart⟩ : catStep.entity.key ≠ dogEntity.key ∧
      (∀ above ∈ houseOrder.steps, above.entity.key ≠ catStep.parent.key) ∧
      (houseDatabase.recordsOf catStep.entity).hasColumn
        (readBack catStep.entity.identifierField) = true ∧
      (∀ row ∈ (houseDatabase.recordsOf catStep.entity).rows, (catStep.entity.identifierCell
        (houseDatabase.recordsOf catStep.entity) row).identifies = true) ∧
      (catStep.entity.fieldType catStep.entity.identifierField).isPlain = true ∧
      (houseDatabase.recordsOf catStep.entity).rows.Pairwise
        (catStep.entity.StoredApart (houseDatabase.recordsOf catStep.entity)) := by
    decide +kernel
  have outside : ¬ catStep.Within houseOrder.steps dogEntity.key := by
    intro within
    cases within with
    | itself same => exact named same
    | hanging inside _ hung => exact free _ inside hung
  have executed := all.executed planned
  have repeated := none.executed replanned
  exact ⟨executed, repeated, outside, Service.other_branches_unchanged faultless asked dogs planned
    replanned ordered (by decide +kernel) joined outside column
    (EntitySchema.identified_of_cells plain present apart) executed rfl all.complete repeated rfl
    none.complete⟩

end Joinery
