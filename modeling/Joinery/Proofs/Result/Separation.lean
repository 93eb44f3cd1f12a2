import Joinery.Proofs.Plan.Chains
import Joinery.Proofs.Schema.Labels
import Joinery.Result.Gathering

/-! A row gives every entity its own record back exactly when no two labels of a plan overlap. -/

namespace Joinery

/-- The entities of a plan, the primary one first. -/
def Plan.entities (plan : Plan) : List EntitySchema :=
  plan.primary :: plan.related

/-- No two fields of the entities of a plan have one label. -/
def Plan.Separated (plan : Plan) : Prop :=
  ∀ a ∈ plan.entities, ∀ b ∈ plan.entities, ∀ f ∈ a.fieldNames, ∀ g ∈ b.fieldNames,
    a.columnLabel f = b.columnLabel g → a = b ∧ f = g

/-- Whether no two fields have one label can be computed, label by label. -/
instance (plan : Plan) : Decidable plan.Separated :=
  inferInstanceAs (Decidable (∀ a ∈ plan.entities, ∀ b ∈ plan.entities, ∀ f ∈ a.fieldNames,
    ∀ g ∈ b.fieldNames, a.columnLabel f = b.columnLabel g → a = b ∧ f = g))

/-- Some field of a plan overlaps with a field of an entity with a longer key. -/
def Plan.Overlapping (plan : Plan) : Prop :=
  ∃ a ∈ plan.entities, ∃ b ∈ plan.entities, ∃ f ∈ a.fieldNames, ∃ g ∈ b.fieldNames,
    a.Overlaps f b g

/-- The record of an entity with the given values. -/
def EntitySchema.record (entity : EntitySchema) (values : String → Value) : Record :=
  entity.fieldNames.map fun field => (field, values field)

/-- The row in which every entity of a plan has a record; of two columns with one label the last counts. -/
def Plan.joinedRow (plan : Plan) (values : EntitySchema → String → Value) : Entries Value :=
  .ofPairs (plan.entities.flatMap fun entity =>
    entity.fieldNames.map fun field => (entity.columnLabel field, values entity field))

/-- Whatever the records of a row are, every entity gets its own one back. -/
def Plan.GivesBack (plan : Plan) : Prop :=
  ∀ values, ∀ entity ∈ plan.entities,
    entity.extract (plan.joinedRow values) = entity.record (values entity)

variable {plan : Plan} {registry : Registry} {query : Query}

/-- The entities of a plan have different keys. -/
theorem Plan.entities_inj (planned : registry.plan query = .ok plan) {a b : EntitySchema}
    (first : a ∈ plan.entities) (second : b ∈ plan.entities) (same : a.key = b.key) : a = b := by
  -- In a planning every key has one place.
  obtain ⟨parts, rfl⟩ := Registry.plan_ok planned
  obtain ⟨i, atA⟩ := List.mem_iff_getElem?.mp first
  obtain ⟨j, atB⟩ := List.mem_iff_getElem?.mp second
  have place : i = j := parts.entities_unique atA atB same
  subst place
  exact Option.some.inj (atA.symm.trans atB)

/-- Labels separate the fields of a plan exactly when none of its fields overlap. -/
theorem Plan.separated_iff (planned : registry.plan query = .ok plan) :
    plan.Separated ↔ ¬ plan.Overlapping := by
  -- Two fields have one label when their keys and names do, or when they overlap one way or the other.
  constructor
  · rintro separated ⟨a, inA, b, inB, f, declared, g, beside, overlap⟩
    obtain ⟨rfl, rfl⟩ := separated a inA b inB f declared g beside overlap.columnLabel_eq
    exact overlap.key_ne rfl
  · intro clear a inA b inB f declared g beside same
    rcases EntitySchema.columnLabel_eq_iff.mp same with ⟨key, name⟩ | overlap | overlap
    · exact ⟨entities_inj planned inA inB key, name⟩
    · exact absurd ⟨a, inA, b, inB, f, declared, g, beside, overlap⟩ clear
    · exact absurd ⟨b, inB, a, inA, g, beside, f, declared, overlap⟩ clear

/-- Rows give all records back exactly when labels separate the fields. -/
theorem Plan.givesBack_iff (plan : Plan) : plan.GivesBack ↔ plan.Separated := by
  constructor
  · intro back a inA b inB f declared g beside same
    -- One value is true and all others are false, so that only its own field can show it.
    let values (entity : EntitySchema) (field : String) : Value := .bool (entity = a ∧ field = f)
    have own := List.map_inj_left.mp (back values a inA) f declared
    have shown := List.map_inj_left.mp (back values b inB) g beside
    have equal : values b g = values a f := by
      rw [same] at own
      exact (Prod.mk.inj shown).2.symm.trans (Prod.mk.inj own).2
    have chosen : b = a ∧ g = f := by simpa [values] using equal
    exact ⟨chosen.1.symm, chosen.2.symm⟩
  -- All columns with the label of a field are that field's own, so they have its value.
  · intro separated values entity inside
    refine List.map_congr_left fun field declared => ?_
    have found : (plan.joinedRow values).get? (entity.columnLabel field) =
        some (values entity field) := by
      refine Entries.get?_ofPairs ?_ fun other member => ?_
      · exact List.mem_flatMap.mpr ⟨entity, inside, List.mem_map.mpr ⟨field, declared, rfl⟩⟩
      · obtain ⟨owner, among, member⟩ := List.mem_flatMap.mp member
        obtain ⟨name, declaredThere, same⟩ := List.mem_map.mp member
        obtain ⟨label, rfl⟩ := Prod.mk.inj same
        obtain ⟨rfl, rfl⟩ := separated owner among entity inside name declaredThere field declared label
        rfl
    rw [found, Option.getD_some]

end Joinery
