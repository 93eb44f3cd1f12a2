import Joinery.Proofs.Query.Retelling
import Joinery.Proofs.Text.LowerCase

/-! Steps that narrow down a result decide which entities and fields are kept, and nothing else of a query. -/

namespace Joinery

/-- A step that narrows down the result of a query. -/
inductive NarrowingStep where
  /-- Keeps these entities. -/
  | select (entities : List String)
  /-- Keeps these fields of an entity. -/
  | selectFields (entity : String) (fields : List String)

/-- The step that a query takes. -/
def NarrowingStep.toStep : NarrowingStep → QueryStep
  | .select entities => .select entities
  | .selectFields entity fields => .selectFields entity fields

/-- The entities that a step names, when it names some to keep. -/
def NarrowingStep.selection? : NarrowingStep → Option (List String)
  | .select entities => some entities
  | .selectFields _ _ => none

/-- The query that keeps all entities and all fields. -/
def Query.whole (query : Query) : Query :=
  { query with selectedEntities := [], selectedFields := [] }

/-- Which entities and which fields are kept, in lower case. -/
structure Projection where
  /-- The entities to keep; none keeps all. -/
  entities : List String
  /-- The fields to keep of an entity; none keeps all. -/
  fields : String → List String

/-- What a query keeps: of an entity the fields that are named for it last, in whatever letter case. -/
def Query.projection (query : Query) : Projection where
  entities := query.selectedEntities.map lowered
  fields key :=
    ((query.selectedFields.filterMap fun (name, fields) =>
      if lowered name = key then some (fields.map lowered) else none).getLast?).getD []

/-- Fields are kept under names in lower case, and under each name once. -/
structure Query.FieldsApart (query : Query) : Prop where
  /-- No name comes twice. -/
  distinct : query.selectedFields.keys.Nodup
  /-- The names are in lower case. -/
  lower : ∀ key ∈ query.selectedFields.keys, lowered key = key

/-- The empty query keeps no fields at all. -/
theorem Query.empty_fieldsApart : Query.empty.FieldsApart :=
  ⟨.nil, nofun⟩

variable {query : Query} {step : NarrowingStep} {steps : List NarrowingStep}

/-- Where fields are kept apart, those of an entity are found under its name in lower case. -/
theorem Query.FieldsApart.fields (apart : query.FieldsApart) (key : String) :
    query.projection.fields key = ((query.selectedFields.get? key).getD []).map lowered := by
  -- The names are in lower case already, so comparing in lower case is comparing.
  have same : query.selectedFields.filterMap (fun (name, fields) =>
        if lowered name = key then some (fields.map lowered) else none) =
      (query.selectedFields.filterMap fun (name, fields) =>
        if name = key then some fields else none).map (List.map lowered) := by
    rw [List.map_filterMap]
    refine List.filterMap_congr fun ⟨name, fields⟩ member => ?_
    have lower : lowered name = name := apart.lower name (List.mem_map_of_mem member)
    simp only [lower, apply_ite (Option.map _), Option.map_some, Option.map_none]
  have found := Entries.get?_ofPairs_eq_getLast? query.selectedFields key
  rw [Entries.ofPairs_eq_self apart.distinct] at found
  simp only [projection, same, List.getLast?_map, ← found]
  cases query.selectedFields.get? key <;> rfl

/-- Narrowing down always succeeds, and leaves the rest of a query as it is. -/
theorem Query.exists_narrowed (query : Query) (steps : List NarrowingStep) :
    ∃ built, query.applyAll (steps.map NarrowingStep.toStep) = .ok built ∧
      built.whole = query.whole ∧
      built.selectedEntities =
        (steps.filterMap NarrowingStep.selection?).getLast?.getD query.selectedEntities := by
  -- Each step replaces the selection or adds fields, and the rest of the query is not touched.
  induction steps generalizing query with
  | nil => exact ⟨query, rfl, rfl, rfl⟩
  | cons step rest ih =>
    cases step with
    | select entities =>
      obtain ⟨built, applied, same, kept⟩ := ih (query.select entities)
      refine ⟨built, applied, same, ?_⟩
      have named : (NarrowingStep.select entities).selection? = some entities := rfl
      rw [kept, List.filterMap_cons_some named, List.getLast?_cons]
      rfl
    | selectFields entity fields =>
      obtain ⟨built, applied, same, kept⟩ := ih (query.selectFields entity fields)
      exact ⟨built, applied, same, kept⟩

/-- One more list of fields keeps them apart. -/
theorem Query.FieldsApart.selectFields (apart : query.FieldsApart) (entity : String)
    (fields : List String) : (query.selectFields entity fields).FieldsApart := by
  -- The name of the entity is put in lower case, and is added only where it is new.
  constructor
  · rw [Query.selectFields, Entries.keys_insert]
    split
    · exact apart.distinct
    · rename_i fresh
      exact List.nodup_append.mpr ⟨apart.distinct, by simp, by
        rintro key inside _ (_ | ⟨_, ⟨⟩⟩) rfl
        exact fresh inside⟩
  · rw [Query.selectFields, Entries.keys_insert]
    split
    · exact apart.lower
    · simpa [or_imp, forall_and] using apart.lower

/-- A list of fields adds to those of its entity. -/
theorem Query.FieldsApart.mem_selectFields (apart : query.FieldsApart) (entity : String)
    (fields : List String) (key field : String) :
    field ∈ (query.selectFields entity fields).projection.fields key ↔
      field ∈ query.projection.fields key ∨ lowered entity = key ∧ field ∈ fields.map lowered := by
  -- The list is put under the name of its entity, in front of no other.
  rw [(apart.selectFields entity fields).fields, apart.fields, Query.selectFields,
    Entries.get?_insert]
  by_cases same : key = lowered entity
  · subst same
    simpa using mem_addedFields _ fields field
  · have other : ¬ lowered entity = key := fun h => same h.symm
    simp [same, other]

/-- What is kept of an entity are the fields that were kept before, and those that the steps name for it. -/
theorem Query.FieldsApart.mem_narrowed (apart : query.FieldsApart) {built : Query}
    (applied : query.applyAll (steps.map NarrowingStep.toStep) = .ok built) (key field : String) :
    field ∈ built.projection.fields key ↔ field ∈ query.projection.fields key ∨
      ∃ entity fields, .selectFields entity fields ∈ steps ∧ lowered entity = key ∧
        field ∈ fields.map lowered := by
  -- Selecting entities touches no fields, and each list adds its own.
  induction steps generalizing query with
  | nil =>
    cases applied
    simp
  | cons step rest ih =>
    cases step with
    | select entities =>
      have kept : (query.select entities).FieldsApart := ⟨apart.distinct, apart.lower⟩
      rw [ih kept applied]
      simp [Query.select, Query.projection]
    | selectFields entity fields =>
      rw [ih (apart.selectFields entity fields) applied, apart.mem_selectFields]
      -- The first list has it, or one of the lists behind it.
      constructor
      · rintro ((before | ⟨own, named⟩) | ⟨entity', fields', member, own, named⟩)
        · exact .inl before
        · exact .inr ⟨entity, fields, List.mem_cons_self, own, named⟩
        · exact .inr ⟨entity', fields', List.mem_cons_of_mem _ member, own, named⟩
      · rintro (before | ⟨entity', fields', member, own, named⟩)
        · exact .inl (.inl before)
        · rcases List.mem_cons.mp member with same | later
          · cases same
            exact .inl (.inr ⟨own, named⟩)
          · exact .inr ⟨entity', fields', later, own, named⟩

end Joinery
