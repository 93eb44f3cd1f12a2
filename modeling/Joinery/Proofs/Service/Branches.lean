import Joinery.Proofs.Database.Checking
import Joinery.Proofs.Database.Sorting
import Joinery.Proofs.Plan.Chains
import Joinery.Proofs.Plan.Columns
import Joinery.Proofs.Result.Fetched
import Joinery.Proofs.Schema.Relationships
import Joinery.Proofs.Service.Execution

/-! What an answer lists for a related entity was read from the rows that its join reaches. -/

namespace Joinery

variable {service : Service} {query : Query} {step : JoinStep} {rows : List FetchedRow}
  {gathering : Gathering} {result : QueryResult} {branch : Branch}

/-- The entities of a plan passed their own checks. -/
theorem Planning.fault?_eq_none {registry : Registry} (parts : Planning registry query)
    (loaded : registry.Loaded) {entity : EntitySchema} (member : entity ∈ parts.entities) :
    entity.fault? = none := by
  -- Each of them was found in the registry.
  rcases List.mem_cons.mp member with rfl | related
  · exact loaded.fault?_eq_none parts.required
  · obtain ⟨step, inside, rfl⟩ := List.mem_map.mp related
    obtain ⟨request, _, found, _⟩ := parts.sound.requested step inside
    exact loaded.fault?_eq_none found

/-- The identifiers of the entities of a plan are fields of theirs. -/
theorem Planning.declares_identifier {registry : Registry} (parts : Planning registry query)
    (loaded : registry.Loaded) {entity : EntitySchema} (member : entity ∈ parts.entities) :
    entity.declares entity.identifierField = true := by
  -- A checked entity has its identifier.
  exact EntitySchema.declares_identifier (parts.fault?_eq_none loaded member)

/-- So they are wherever the registry has no fault. -/
theorem Planning.declares_of_faultless {registry : Registry} (parts : Planning registry query)
    (faultless : registry.Faultless) {entity : EntitySchema} (member : entity ∈ parts.entities) :
    entity.declares entity.identifierField = true := by
  -- The entities of a plan are registered ones.
  obtain ⟨name, known⟩ := parts.registered member
  exact EntitySchema.declares_identifier (faultless.entities name _ known)

/-- The column of a declared field is found in the source of its entity. -/
theorem Planning.hasColumn_of_declares {registry : Registry} (parts : Planning registry query)
    {database : Database}
    (resolved : parts.plan.statement.Resolved database parts.plan.parameters) {source : Nat}
    {entity : EntitySchema} (at_ : parts.entities[source]? = some entity) {field : String}
    (declared : field ∈ entity.fieldNames) :
    (sourceAt (parts.plan.statement.sources database parts.plan.parameters) source).hasColumn
      (readBack field) = true := by
  -- Every field is among the returned columns, all of which are found.
  have returned := parts.mem_columns.mpr ⟨source, entity, field, at_, declared, rfl⟩
  exact resolved.columns ⟨⟨source, field⟩, entity.columnLabel field⟩ returned

/-- A declared field is one of the names of the fields. -/
theorem EntitySchema.mem_fieldNames {entity : EntitySchema} {field : String}
    (declared : entity.declares field = true) : field ∈ entity.fieldNames := by
  -- The names are the keys of the fields.
  obtain ⟨pair, member, same⟩ := List.any_eq_true.mp declared
  exact List.mem_map.mpr ⟨pair, member, by simpa using same⟩

variable {parts : Planning service.registry query}

/-- The branches of an answer are those of the related entities in order. -/
theorem Service.Answered.entities (answered : service.Answered query parts.plan rows gathering result) :
    gathering.branches.map (·.entity) = parts.plan.related := by
  -- Each branch stays that of its entity.
  have aligned := Gathering.branches_ok answered.gathered
  generalize parts.plan.related = related, gathering.branches = branches at aligned ⊢
  induction aligned with
  | nil => rfl
  | cons head _ ih => rw [List.map_cons, head.entity_eq, ih]

/-- What an answer says about an entity that is kept is found under its name. -/
theorem Service.Answered.get? (answered : service.Answered query parts.plan rows gathering result)
    {part : Section} (member : part ∈ gathering.primarySection parts.plan ::
      gathering.branches.map (·.section parts.plan)) (kept : parts.plan.keeps part.key = true) :
    result.data.get? part.key = some part.content ∧
      result.counts.get? part.key = some part.count := by
  -- No two entities of a plan have one name.
  rw [answered.result_eq]
  refine Gathering.toResult_get? ?_ member kept
  have names := congrArg (List.map EntitySchema.key) answered.entities
  rw [List.map_map] at names
  have distinct := parts.sound.distinct
  rw [show parts.plan.related = parts.order.steps.map (·.entity) from rfl, List.map_map] at names
  exact names ▸ distinct

/-- What an answer says about the primary entity, if it is kept, is made of the primary record. -/
theorem Service.Answered.get?_primary {plan : Plan}
    (answered : service.Answered query plan rows gathering result)
    (kept : plan.keeps plan.primary.key = true) :
    result.data.get? plan.primary.key = some (gathering.primarySection plan).content ∧
      result.counts.get? plan.primary.key = some (gathering.primarySection plan).count := by
  -- The section of the primary entity stands under its own key in every case.
  obtain ⟨parts, rfl⟩ := Registry.plan_ok answered.planned
  have named : (gathering.primarySection parts.plan).key = parts.plan.primary.key := by
    unfold Gathering.primarySection
    split <;> rfl
  have told := answered.get? List.mem_cons_self (named ▸ kept)
  rwa [named] at told

/-- An answer says nothing under names other than those of the entities that are kept. -/
theorem Service.Answered.get?_of_absent {plan : Plan} {key : String}
    (answered : service.Answered query plan rows gathering result) (absent : key ∉ plan.keptKeys) :
    result.data.get? key = none ∧ result.counts.get? key = none := by
  -- The names that it tells of are those of the entities.
  have keys := Gathering.keys_toResult answered.gathered
  rw [answered.result_eq]
  exact ⟨Entries.get?_eq_none (keys.1 ▸ absent), Entries.get?_eq_none (keys.2 ▸ absent)⟩

/-- An answer says nothing about an entity that is not kept. -/
theorem Service.Answered.get?_of_dropped {plan : Plan} {key : String}
    (answered : service.Answered query plan rows gathering result)
    (dropped : plan.keeps key = false) : result.data.get? key = none := by
  -- The answer has the keys of the kept sections only.
  refine (answered.get?_of_absent fun inside => ?_).1
  have kept := (List.mem_filter.mp inside).2
  rw [dropped] at kept
  contradiction

/-- A branch goes through all rows, and an answer lists and counts its records if its entity is kept. -/
theorem Service.Answered.folded
    (answered : service.Answered query parts.plan rows gathering result)
    (member : step ∈ parts.order.steps) :
    ∃ branch : Branch, rows.foldlM Branch.add (Branch.start step.entity) = .ok branch ∧
      branch.entity = step.entity ∧ (parts.plan.keeps step.entity.key = true →
        result.data.get? step.entity.key =
            some (.list (branch.records.map fun record =>
              .map (parts.plan.project step.entity.key record))) ∧
          result.counts.get? step.entity.key = some (branch.records.length : Int)) := by
  -- The branch of the entity has its section in the result.
  have aligned := (Gathering.addAll_ok answered.gathered).2
  simp only [Gathering.start, List.forall₂_map_left_iff] at aligned
  obtain ⟨branch, inside, added⟩ :=
    exists_right_of_aligned aligned (List.mem_map.mpr ⟨step, member, rfl⟩)
  have same : branch.entity = step.entity :=
    ((Branch.gathered_start step.entity).addRows added).entity_eq
  refine ⟨branch, added, same, fun kept => ?_⟩
  have found := answered.get? (List.mem_cons_of_mem _ (List.mem_map.mpr ⟨branch, inside, rfl⟩))
    (by simpa only [Branch.section, same] using kept)
  simpa only [Branch.section, same] using found

/-- An answer lists, for each related entity that is kept, the records of its branch. -/
theorem Service.Answered.related
    (answered : service.Answered query parts.plan rows gathering result)
    (member : step ∈ parts.order.steps) (kept : parts.plan.keeps step.entity.key = true) :
    ∃ branch : Branch, branch.Gathered step.entity rows ∧ result.data.get? step.entity.key =
      some (.list (branch.records.map fun record => .map (parts.plan.project step.entity.key record))) := by
  -- The branch of the entity has its section in the result.
  obtain ⟨branch, inside, gathered⟩ := exists_right_of_aligned
    (Gathering.branches_ok answered.gathered) (List.mem_map.mpr ⟨step, member, rfl⟩)
  have same := gathered.entity_eq
  have found := answered.get? (List.mem_cons_of_mem _ (List.mem_map.mpr ⟨branch, inside, rfl⟩))
    (by simpa only [Branch.section, same] using kept)
  simp only [Branch.section, same] at found
  exact ⟨branch, gathered, found.1⟩

/-- Under distinct labels a listed record was read from a row that the join of its entity reaches. -/
theorem Service.Answered.record_origin
    (answered : service.Answered query parts.plan rows gathering result)
    (distinct : (parts.plan.statement.columns.map (·.label)).Nodup) {i : Nat}
    (at_ : parts.order.steps[i]? = some step)
    (declared : step.entity.declares step.entity.identifierField = true) (gathered : branch.Gathered step.entity rows)
    {record : Record} (member : record ∈ branch.records) :
    ∃ row, parts.plan.statement.Reaches service.database parts.plan.parameters (i + 1) row ∧
      step.entity.readRow (sourceAt
        (parts.plan.statement.sources service.database parts.plan.parameters) (i + 1)) row =
          .ok record := by
  -- A record is listed with an identifier only, and rows without values have none.
  obtain ⟨identified, fetched, inside, rfl⟩ := gathered.origin record member
  obtain ⟨joined, returned, built⟩ := exists_left_of_aligned answered.fetched inside
  have read := parts.readRow_step distinct built at_
  have resolved := Statement.resolved_of_check answered.checked
  have present := Cell.isNull_of_fetch (EntitySchema.readRow_identifier declared read)
  rw [EntitySchema.identifies, present, Bool.not_eq_true'] at identified
  have short : i + 1 ≤ parts.plan.statement.joins.length := by
    obtain ⟨short, _⟩ := List.getElem?_eq_some_iff.mp at_
    rw [parts.joins_length]
    exact short
  refine ⟨_, Statement.reaches_of_mem_joinedRows parts.parentsBefore resolved.parents
    (Statement.mem_joinedRows_of_mem_resultRows returned) short ?_ identified, read⟩
  exact parts.hasColumn_of_declares resolved (parts.entity_at at_)
    (EntitySchema.mem_fieldNames declared)

end Joinery
