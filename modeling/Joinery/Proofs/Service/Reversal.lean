import Joinery.Proofs.Plan.Chains
import Joinery.Proofs.Service.Running

/-! Two entities that one relationship connects, joined with either of them as the parent. -/

namespace Joinery

/-- The fields that join two entities, seen from the other one. -/
def JoinKeys.reversed (keys : JoinKeys) : JoinKeys :=
  ⟨keys.child, keys.parent⟩

/-- Of two entities only the first one has a relationship to the other. -/
structure EntitySchema.RelatesAlone (entity other : EntitySchema) (relationship : Relationship) :
    Prop where
  /-- The entity has the relationship. -/
  related : entity.relationshipTo? other.name = some relationship
  /-- The other entity has no relationship back. -/
  alone : other.relationshipTo? entity.name = none

variable {entity other : EntitySchema} {relationship : Relationship}

/-- Below the entity that has the relationship the other one is joined by both fields of it. -/
theorem EntitySchema.RelatesAlone.joinKeys_below (alone : entity.RelatesAlone other relationship) :
    joinKeys entity other = ⟨relationship.foreignKey, relationship.otherKey⟩ := by
  rw [joinKeys, alone.related]

/-- Above it the other one is joined by its identifier, whatever field the relationship gives. -/
theorem EntitySchema.RelatesAlone.joinKeys_above (alone : entity.RelatesAlone other relationship) :
    joinKeys other entity = ⟨other.identifierField, relationship.foreignKey⟩ := by
  rw [joinKeys, alone.alone, alone.related]

/-- Every step of a plan has a join that compares the fields by which its two entities are joined. -/
theorem Planning.exists_join_of_step {registry : Registry} {query : Query}
    (parts : Planning registry query) {step : JoinStep} (inside : step ∈ parts.order.steps) :
    ∃ join ∈ parts.plan.statement.joins, join.table = step.entity.tableName ∧
      (⟨join.parent.column, join.key⟩ : JoinKeys) = joinKeys step.parent step.entity := by
  -- The join stands at the place of the step.
  obtain ⟨i, placed⟩ := List.mem_iff_getElem?.mp inside
  obtain ⟨predicates, found, _⟩ := parts.join_at placed
  exact ⟨_, List.mem_of_getElem? found, by simp, by simp⟩

/--
One relationship joins two entities by the same fields in both directions exactly when the field that it
gives for the other side is the identifier there.

The field of the entity that has the relationship is the same in both directions. The other entity is
joined by the given field as a child, and by its identifier as a parent. What is given is a declared field,
unless it is empty and stands for the name of the first field. The joins of every plan compare these fields.
-/
theorem Registry.join_keys_reversed_iff {document : Value} {registry : Registry}
    (read : ofDocument document = .ok registry) {firstKey secondKey : String}
    (entityIn : (firstKey, entity) ∈ registry.entities)
    (otherIn : (secondKey, other) ∈ registry.entities)
    (alone : entity.RelatesAlone other relationship) :
    (joinKeys entity other = ⟨relationship.foreignKey, relationship.otherKey⟩ ∧
      joinKeys other entity = ⟨other.identifierField, relationship.foreignKey⟩) ∧
    (joinKeys other entity = (joinKeys entity other).reversed ↔
      relationship.otherKey = other.identifierField) ∧
    (joinKeys entity other = (joinKeys other entity).reversed ↔
      relationship.otherKey = other.identifierField) ∧
    (∀ key, relationship.localKey = some key →
      relationship.otherKey = (if key = "" then relationship.foreignKey else key) ∧
        (key ≠ "" → other.declares key = true)) ∧
    (entity.declares relationship.foreignKey = true ∧
      other.declares other.identifierField = true) ∧
    ∀ query plan, registry.plan query = .ok plan → ∃ order,
      JoinOrder.ofRequests registry plan.primary query.related = .ok order ∧
        ∀ step ∈ order.steps, ∃ join ∈ plan.statement.joins, join.table = step.entity.tableName ∧
          (⟨join.parent.column, join.key⟩ : JoinKeys) = joinKeys step.parent step.entity := by
  -- The keys are known in both directions, since no other relationship is between the two.
  have consistent := consistent_of_ofDocument read
  have below := alone.joinKeys_below
  have above := alone.joinKeys_above
  refine ⟨⟨below, above⟩, ?_, ?_, fun key given => ⟨?_, fun filled => ?_⟩, ⟨?_, ?_⟩,
    fun query plan planned => ?_⟩
  -- From the entity to the other one only the second key can differ.
  · rw [below, above, JoinKeys.reversed, JoinKeys.mk.injEq]
    exact ⟨fun same => same.1.symm, fun same => ⟨same.symm, rfl⟩⟩
  · rw [below, above, JoinKeys.reversed, JoinKeys.mk.injEq]
    exact ⟨fun same => same.2, fun same => ⟨rfl, same⟩⟩
  -- The other side goes by the given key, which is checked when it is not empty.
  · rw [Relationship.otherKey, given]
  · exact consistent.declares_localKey entityIn otherIn alone.related given filled
  -- The first side of either join is a declared field.
  · have declared := consistent.declares_parentKey entityIn other
    rwa [below] at declared
  · exact EntitySchema.declares_identifier (consistent.checked _ _ otherIn)
  -- The plan joins by these keys, step by step.
  · obtain ⟨parts, rfl⟩ := Registry.plan_ok planned
    exact ⟨parts.order, parts.ordered, fun step inside => parts.exists_join_of_step inside⟩

/-- The document of owners and passports, each of which leads to its holder. -/
def passportDocument : Value :=
  .map [("entities", .map [
    ("Owner", entityDocument "owner" [("id", "string"), ("city", "string")] ["id"] .null []),
    ("Passport", entityDocument "passport" [("id", "integer"), ("holder", "string")] ["id"] .null
      [("Owner", .map [("foreignKey", .text "holder"), ("localKey", .text "id")])])])]

/-- The registry of owners and passports. -/
def passportRegistry : Registry :=
  (Registry.ofDocument passportDocument).toOption.get (by decide +kernel)

/-- The entity of passports. -/
def passportEntity : EntitySchema :=
  (passportRegistry.entities.get? "passport").get (by decide +kernel)

/-- The entity of their holders. -/
def holderEntity : EntitySchema := (passportRegistry.entities.get? "owner").get (by decide +kernel)

/-- Passports and their holders are joined by the same fields in both directions. -/
theorem passportEntity_join_keys_reversed :
    Registry.ofDocument passportDocument = .ok passportRegistry ∧
    ("passport", passportEntity) ∈ passportRegistry.entities ∧
    ("owner", holderEntity) ∈ passportRegistry.entities ∧
    passportEntity.RelatesAlone holderEntity ⟨"holder", some "id", .oneToMany⟩ ∧
    joinKeys passportEntity holderEntity = ⟨"holder", "id"⟩ ∧
    joinKeys holderEntity passportEntity = (joinKeys passportEntity holderEntity).reversed := by
  -- Both entities and their only relationship are found in the registry.
  have read : Registry.ofDocument passportDocument = .ok passportRegistry := eq_ok_get _
  have passports : ("passport", passportEntity) ∈ passportRegistry.entities :=
    Entries.mem_of_get? (Option.some_get _).symm
  have holders : ("owner", holderEntity) ∈ passportRegistry.entities :=
    Entries.mem_of_get? (Option.some_get _).symm
  have alone : passportEntity.RelatesAlone holderEntity ⟨"holder", some "id", .oneToMany⟩ :=
    ⟨by decide +kernel, by decide +kernel⟩
  -- The key that is given is the identifier of the other side.
  obtain ⟨⟨below, _⟩, same, _⟩ := Registry.join_keys_reversed_iff read passports holders alone
  exact ⟨read, passports, holders, alone, below, same.mpr (by decide +kernel)⟩

/-- The entity of owners with pets. -/
def ownerEntity : EntitySchema := (petRegistry.entities.get? "owner").get (by decide +kernel)

/-- The entity of their pets. -/
def ownedEntity : EntitySchema := (petRegistry.entities.get? "pet").get (by decide +kernel)

/-- A query of one pet with its owner. -/
def petOwnerQuery : Query where
  primary := .text "Pet"
  filter := some ⟨[("name", .text "Ada")], none⟩
  related := [⟨.text "Owner", none, .null⟩]
  selectedEntities := []
  selectedFields := []
  maxRows := .null

/-- The plan of the query of one pet. -/
def petOwnerPlan : Plan := (petRegistry.plan petOwnerQuery).toOption.get (by decide +kernel)

/-- The answer to the query of one pet: it has an owner, and none is found. -/
def petOwnerResult : QueryResult where
  success := true
  error := none
  data := [("pet", .map (petRecord 1 "A" "Ada" 5)), ("owner", .list [])]
  counts := [("pet", 1), ("owner", 0)]
  warnings := []

/--
Owners lead to their pets by the field in which a pet holds its owner. Pets are joined below owners by that
field, and above them by their own identifier, so that a pet is answered without its owner.
-/
theorem Registry.join_keys_not_reversed :
    ¬ (∀ document registry, Registry.ofDocument document = .ok registry →
      ∀ firstKey secondKey first second, (firstKey, first) ∈ registry.entities →
        (secondKey, second) ∈ registry.entities →
          ∀ relationship key, relationship.localKey = some key →
            (first.RelatesAlone second relationship ∨ second.RelatesAlone first relationship) →
              joinKeys second first = (joinKeys first second).reversed) ∧
    Registry.ofDocument petDocument = .ok petRegistry ∧
    ("owner", ownerEntity) ∈ petRegistry.entities ∧ ("pet", ownedEntity) ∈ petRegistry.entities ∧
    ownerEntity.RelatesAlone ownedEntity ⟨"id", some "owner", .oneToMany⟩ ∧
    joinKeys ownerEntity ownedEntity = ⟨"id", "owner"⟩ ∧
    joinKeys ownedEntity ownerEntity = ⟨"id", "id"⟩ ∧
    petService.execute (petQuery none) .quiet = .ok petResult ∧
    petService.execute petOwnerQuery .quiet = .ok petOwnerResult := by
  -- The pets are joined from below by their identifier, although the owner gives another key.
  have owners : ("owner", ownerEntity) ∈ petRegistry.entities :=
    Entries.mem_of_get? (Option.some_get _).symm
  have pets : ("pet", ownedEntity) ∈ petRegistry.entities :=
    Entries.mem_of_get? (Option.some_get _).symm
  have alone : ownerEntity.RelatesAlone ownedEntity ⟨"id", some "owner", .oneToMany⟩ :=
    ⟨by decide +kernel, by decide +kernel⟩
  have below : joinKeys ownerEntity ownedEntity = ⟨"id", "owner"⟩ := alone.joinKeys_below
  have above : joinKeys ownedEntity ownerEntity = ⟨"id", "id"⟩ := by decide +kernel
  have planned : petService.registry.plan petOwnerQuery = .ok petOwnerPlan := eq_ok_get _
  refine ⟨fun reversed => ?_, petService_read, owners, pets, alone, below, above,
    petResult_executed, ?_⟩
  -- The claim of all relationships fails at this one.
  · have same := reversed _ _ petService_read _ _ _ _ owners pets _ _ rfl (.inl alone)
    rw [below, above] at same
    exact absurd same (by decide)
  -- The query finds no owner for the pets that have one.
  · rw [Service.execute_eq_answerInOrder planned (by decide +kernel)]
    decide +kernel

end Joinery
