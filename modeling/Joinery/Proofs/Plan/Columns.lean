import Joinery.Proofs.Plan.Chains
import Joinery.Proofs.Result.Records

/-! The columns of a plan carry every entity's fields, each with the meaning of its own field. -/

namespace Joinery

variable {primary entity : EntitySchema} {steps : List JoinStep} {step : JoinStep}

/-- The labels of an entity's columns do not depend on its source. -/
theorem selectedColumns_labels (source : Nat) (entity : EntitySchema) :
    (selectedColumns source entity).map (·.label) = entity.labels := by
  -- A label is made of names only.
  simp [selectedColumns, EntitySchema.labels, Function.comp_def]

/-- The columns are labelled entity by entity, the primary one first. -/
theorem plannedColumns_labels (primary : EntitySchema) (steps : List JoinStep) :
    (plannedColumns primary steps).map (·.label) =
      (primary :: steps.map (·.entity)).flatMap EntitySchema.labels := by
  -- The sources count the entities, and the labels leave them out.
  rw [plannedColumns, List.map_append, selectedColumns_labels, List.flatMap_cons, List.flatMap_def,
    List.map_flatten]
  congr 2
  refine List.ext_getElem (by simp) fun i _ _ => ?_
  simp [selectedColumns_labels]

variable {registry : Registry} {query : Query} {sources : List Relation} {joined : JoinedRow}
  {fetched : FetchedRow} {source : Nat}

/-- What is read off entities and their places is read off the steps that join them. -/
theorem mapIdx_entities {α : Type} (read : Nat → EntitySchema → α) (steps : List JoinStep) :
    (steps.map (·.entity)).mapIdx read = steps.mapIdx fun place step => read place step.entity := by
  -- At each place both lists have the same entity.
  refine List.ext_getElem? fun place => ?_
  rw [List.getElem?_mapIdx, List.getElem?_mapIdx, List.getElem?_map, Option.map_map]
  rfl

/-- The returned columns are those of the fields of all entities, each at its source. -/
theorem Planning.mem_columns (parts : Planning registry query) {selected : SelectedColumn} :
    selected ∈ parts.plan.statement.columns ↔ ∃ source entity field,
      parts.entities[source]? = some entity ∧ field ∈ entity.fieldNames ∧
        selected = ⟨⟨source, field⟩, entity.columnLabel field⟩ := by
  -- The columns are listed source by source, and field by field.
  have columns : parts.plan.statement.columns =
      (parts.entities.mapIdx selectedColumns).flatten := by
    simp [plan, plannedColumns, entities, mapIdx_entities]
  rw [columns, List.mem_flatten]
  constructor
  · rintro ⟨group, inside, member⟩
    obtain ⟨source, at_⟩ := List.mem_iff_getElem?.mp inside
    rw [List.getElem?_mapIdx, Option.map_eq_some_iff] at at_
    obtain ⟨entity, found, rfl⟩ := at_
    obtain ⟨field, declared, rfl⟩ := List.mem_map.mp member
    exact ⟨source, entity, field, found, declared, rfl⟩
  · rintro ⟨source, entity, field, found, declared, rfl⟩
    refine ⟨selectedColumns source entity, ?_, List.mem_map.mpr ⟨field, declared, rfl⟩⟩
    exact List.mem_iff_getElem?.mpr ⟨source, by rw [List.getElem?_mapIdx, found]; rfl⟩

/-- The sorted columns are the identifiers of all entities, each at its source. -/
theorem Planning.mem_order (parts : Planning registry query) {ref : ColumnRef} :
    ref ∈ parts.plan.statement.order ↔ ∃ source entity,
      parts.entities[source]? = some entity ∧ ref = ⟨source, entity.identifierField⟩ := by
  -- One identifier is listed for each source.
  have order : parts.plan.statement.order =
      parts.entities.mapIdx fun source entity => ⟨source, entity.identifierField⟩ := by
    simp [plan, plannedOrder, entities, mapIdx_entities]
  rw [order, List.mem_iff_getElem?]
  simp only [List.getElem?_mapIdx, Option.map_eq_some_iff]
  grind

/-- Under distinct labels the column of a field has the meaning of that field. -/
theorem Planning.resultTypes_get? (parts : Planning registry query)
    (distinct : (parts.plan.statement.columns.map (·.label)).Nodup)
    (member : entity ∈ parts.entities) {field : String}
    (declared : field ∈ entity.fieldNames) :
    parts.plan.resultTypes.get? (entity.columnLabel field) = some (entity.fieldType field) := by
  -- The meanings are entered under the same labels as the columns.
  have keys : (((parts.primary :: parts.order.steps.map (·.entity)).flatMap fun entity =>
      entity.fieldNames.map fun field =>
        (entity.columnLabel field, entity.fieldType field)).map Prod.fst).Nodup := by
    have same := plannedColumns_labels parts.primary parts.order.steps
    simp only [Planning.plan, same] at distinct
    simp only [List.map_flatMap, List.map_map]
    exact distinct
  rw [Plan.resultTypes]
  refine (congrArg (Entries.get? · _) (Entries.ofPairs_eq_self keys)).trans ?_
  refine Entries.get?_of_mem keys (List.mem_flatMap.mpr ⟨entity, member, ?_⟩)
  exact List.mem_map.mpr ⟨field, declared, rfl⟩

/-- Under distinct labels a fetched row holds the record of the row at every source. -/
theorem Planning.readRow_at (parts : Planning registry query)
    (distinct : (parts.plan.statement.columns.map (·.label)).Nodup)
    (built : fetchRow parts.plan.statement.columns parts.plan.resultTypes sources joined =
      .ok fetched) (at_ : parts.entities[source]? = some entity) :
    entity.readRow (sourceAt sources source) (joined.getD source []) =
      .ok (entity.extract fetched) := by
  -- The columns of an entity are among those that are returned.
  refine fetchRow_extract distinct built (fun selected member => ?_) fun field declared => ?_
  · obtain ⟨field, declared, rfl⟩ := List.mem_map.mp member
    exact parts.mem_columns.mpr ⟨source, entity, field, at_, declared, rfl⟩
  · exact parts.resultTypes_get? distinct (List.mem_of_getElem? at_) declared

/-- Under distinct labels a fetched row holds the record of its primary row. -/
theorem Planning.readRow_primary (parts : Planning registry query)
    (distinct : (parts.plan.statement.columns.map (·.label)).Nodup)
    (built : fetchRow parts.plan.statement.columns parts.plan.resultTypes sources joined =
      .ok fetched) :
    parts.primary.readRow (sourceAt sources 0) (joined.getD 0 []) =
      .ok (parts.primary.extract fetched) :=
  -- The primary entity is source zero.
  parts.readRow_at distinct built rfl

/-- Under distinct labels a fetched row holds the record of the row of every joined entity. -/
theorem Planning.readRow_step (parts : Planning registry query)
    (distinct : (parts.plan.statement.columns.map (·.label)).Nodup)
    (built : fetchRow parts.plan.statement.columns parts.plan.resultTypes sources joined =
      .ok fetched) {i : Nat} (at_ : parts.order.steps[i]? = some step) :
    step.entity.readRow (sourceAt sources (i + 1)) (joined.getD (i + 1) []) =
      .ok (step.entity.extract fetched) :=
  -- The entity of a step is the source after the place of the step.
  parts.readRow_at distinct built (parts.entity_at at_)

/-- Under distinct labels a joined row is fetched as soon as the row at every source can be read. -/
theorem Planning.exists_fetchRow (parts : Planning registry query)
    (distinct : (parts.plan.statement.columns.map (·.label)).Nodup)
    (readable : ∀ (source : Nat) (entity : EntitySchema), parts.entities[source]? = some entity →
      ∃ record, entity.readRow (sourceAt sources source) (joined.getD source []) = .ok record) :
    ∃ fetched, fetchRow parts.plan.statement.columns parts.plan.resultTypes sources joined =
      .ok fetched := by
  refine (exists_mapM fun selected member => ?_).elim fun pairs computed =>
    ⟨.ofPairs pairs, bind_eq_ok.mpr ⟨pairs, computed, rfl⟩⟩
  obtain ⟨source, entity, field, at_, declared, rfl⟩ := parts.mem_columns.mp member
  obtain ⟨record, read⟩ := readable source entity at_
  obtain ⟨value, found, _⟩ := EntitySchema.readRow_get? read declared
  -- The column has the meaning of its field, with which the field was read.
  rw [parts.resultTypes_get? distinct (List.mem_of_getElem? at_) declared]
  exact ⟨(entity.columnLabel field, value), bind_eq_ok.mpr ⟨value, found, rfl⟩⟩

end Joinery
