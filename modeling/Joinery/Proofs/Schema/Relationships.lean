import Joinery.Proofs.Schema.Loading

/-! The fields that join two entities of a registry: those that a check looks for, and the one that it does not. -/

namespace Joinery

/-- Entities that are entered are entered under distinct names. -/
theorem enterEntities_distinct {named : List (String × EntitySchema)}
    {entered result : Entries EntitySchema} (distinct : entered.keys.Nodup)
    (built : enterEntities entered named = .ok result) : result.keys.Nodup := by
  -- A name that is there already ends the entering, so each round adds a new one.
  induction named generalizing entered with
  | nil =>
    cases built
    exact distinct
  | cons pair rest ih =>
    obtain ⟨name, entity⟩ := pair
    rw [enterEntities] at built
    split at built
    · contradiction
    · rename_i fresh
      have new : lowered name ∉ entered.keys := by
        intro inside
        obtain ⟨pair, member, same⟩ := List.mem_map.mp inside
        exact fresh (List.any_eq_true.mpr ⟨pair, member, beq_iff_eq.mpr same⟩)
      refine ih ?_ built
      have keys : Entries.keys (entered ++ [(lowered name, entity)]) =
          entered.keys ++ [lowered name] := List.map_append
      rw [keys]
      exact List.nodup_append_comm.mp (List.nodup_cons.mpr ⟨new, distinct⟩)

/-- A registry in which every name is there once and every relationship leads to a field that is there. -/
structure Registry.Consistent (registry : Registry) : Prop extends registry.Loaded where
  /-- No two entities stand under one name. -/
  distinct : registry.entities.keys.Nodup
  /-- No relationship has a fault at its other side. -/
  targets : targetFault? registry.entities = none

/-- Entities become a registry only under distinct names and without faults between them. -/
theorem Registry.ofEntities_targets {named : List (String × EntitySchema)}
    {defaultLimit maxLimit : Int} {registry : Registry}
    (built : ofEntities named defaultLimit maxLimit = .ok registry) :
    registry.entities.keys.Nodup ∧ targetFault? registry.entities = none := by
  -- Two checks are passed on the way: no name twice, and no fault in a relationship.
  unfold ofEntities at built
  split at built
  · contradiction
  · obtain ⟨entities, entered, checked⟩ := bind_eq_ok.mp built
    split at checked
    · contradiction
    · rename_i faultless
      cases checked
      have none : (Entries.keys ([] : Entries EntitySchema)).Nodup := List.nodup_nil
      exact ⟨enterEntities_distinct none entered, faultless⟩

/-- A registry whose entities are checked, each one by itself and with the others. -/
structure Registry.Faultless (registry : Registry) : Prop where
  /-- Every entity passed its own check. -/
  entities : ∀ key entity, (key, entity) ∈ registry.entities → entity.fault? = none
  /-- No relationship has a fault at its other side. -/
  targets : targetFault? registry.entities = none

/-- A consistent registry is faultless. -/
theorem Registry.Consistent.faultless {registry : Registry} (consistent : registry.Consistent) :
    registry.Faultless :=
  ⟨consistent.checked, consistent.targets⟩

/-- Checked entities become a faultless registry, under whatever names they are entered. -/
theorem Registry.faultless_of_ofEntities {named : List (String × EntitySchema)}
    {defaultLimit maxLimit : Int} {registry : Registry}
    (checked : ∀ name entity, (name, entity) ∈ named → entity.fault? = none)
    (built : ofEntities named defaultLimit maxLimit = .ok registry) : registry.Faultless := by
  -- The entities of the registry are those that were entered, under other names.
  refine ⟨fun key entity member => ?_, (ofEntities_targets built).2⟩
  rw [(ofEntities_ok built).2.2] at member
  obtain ⟨⟨name, found⟩, inside, same⟩ := List.mem_map.mp member
  cases same
  exact checked name entity inside

/-- Every registry that was read from a document is consistent. -/
theorem Registry.consistent_of_ofDocument {document : Value} {registry : Registry}
    (read : ofDocument document = .ok registry) : registry.Consistent := by
  -- The last step of reading a document builds the registry from the checked entities.
  have loaded := loaded_of_ofDocument read
  cases document with
  | map entries =>
    obtain ⟨_, _, rest⟩ := bind_eq_ok.mp read
    obtain ⟨_, _, rest⟩ := bind_eq_ok.mp rest
    obtain ⟨_, _, rest⟩ := bind_eq_ok.mp rest
    obtain ⟨_, _, built⟩ := bind_eq_ok.mp rest
    obtain ⟨distinct, targets⟩ := ofEntities_targets built
    exact ⟨loaded, distinct, targets⟩
  | _ => contradiction

/-- A relationship towards a name stands in the entity under that name, letter case aside. -/
theorem EntitySchema.relationshipTo?_ok {entity : EntitySchema} {name : String}
    {relationship : Relationship} (found : entity.relationshipTo? name = some relationship) :
    ∃ other, (other, relationship) ∈ entity.relationships ∧ lowered other = lowered name := by
  -- The search found it, and the search compares names by their lower-case form.
  obtain ⟨⟨other, candidate⟩, first, same⟩ := Option.map_eq_some_iff.mp found
  cases same
  have named := List.find?_some first
  exact ⟨other, List.mem_of_find?_eq_some first, beq_iff_eq.mp named⟩

variable {registry : Registry} {parentKey childKey : String} {parent child : EntitySchema}

/-- Where relationships have no faults each one leads to an entity with the field that it says. -/
theorem exists_target {entities : Entries EntitySchema} (targets : targetFault? entities = none)
    (parentIn : (parentKey, parent) ∈ entities) {other : String} {relationship : Relationship}
    (member : (other, relationship) ∈ parent.relationships) :
    ∃ target, entities.get? (lowered other) = some target ∧
      ∀ key, relationship.localKey = some key → key ≠ "" → target.declares key = true := by
  -- None of the relationships has a fault, this one in particular.
  have faultless := List.findSome?_eq_none_iff.mp
    (List.findSome?_eq_none_iff.mp targets _ parentIn) _ member
  unfold relationshipFault? at faultless
  cases leads : entities.get? (lowered other) with
  | none =>
    simp only [leads] at faultless
    contradiction
  | some target =>
    refine ⟨target, rfl, fun key given filled => ?_⟩
    simp only [leads, given] at faultless
    by_contra missing
    rw [if_neg (by simp [filled, missing])] at faultless
    contradiction

/-- The field that a relationship says for its other side is a field of the entity there. -/
theorem Registry.Consistent.declares_localKey (consistent : registry.Consistent)
    (parentIn : (parentKey, parent) ∈ registry.entities)
    (childIn : (childKey, child) ∈ registry.entities) {relationship : Relationship}
    (found : parent.relationshipTo? child.name = some relationship) {key : String}
    (given : relationship.localKey = some key) (filled : key ≠ "") :
    child.declares key = true := by
  obtain ⟨other, member, same⟩ := EntitySchema.relationshipTo?_ok found
  obtain ⟨target, leads, declared⟩ := exists_target consistent.targets parentIn member
  -- The name of the relationship leads to the child and to no other entity.
  have located : registry.entities.get? (lowered other) = some child := by
    have named : lowered other = childKey := same.trans (consistent.named _ _ childIn)
    rw [named]
    exact Entries.get?_of_mem consistent.distinct childIn
  cases leads.symm.trans located
  exact declared key given filled

/--
Whether the field for the other side of a parent's relationship is missing at the child.

The relationship says none, and the child has no field of the same name as the parent's.
-/
def EntitySchema.leavesOpen (parent child : EntitySchema) : Bool :=
  (parent.relationshipTo? child.name).any fun relationship =>
    relationship.localKey.getD "" == "" && !child.declares relationship.foreignKey

/-- A relationship that says a field for its other side goes by that field. -/
theorem Relationship.otherKey_cases (relationship : Relationship) :
    (relationship.localKey.getD "" = "" ∧ relationship.otherKey = relationship.foreignKey) ∨
      ∃ key, relationship.localKey = some key ∧ key ≠ "" ∧ relationship.otherKey = key := by
  -- An empty field for the other side counts as none.
  unfold otherKey
  cases given : relationship.localKey with
  | none => exact .inl ⟨rfl, rfl⟩
  | some key =>
    by_cases empty : key = ""
    · exact .inl ⟨empty, if_pos empty⟩
    · exact .inr ⟨key, rfl, empty, if_neg empty⟩

/-- The field that joins a parent is one of its own. -/
theorem Registry.Loaded.declares_parentKey (loaded : registry.Loaded)
    (parentIn : (parentKey, parent) ∈ registry.entities) (child : EntitySchema) :
    parent.declares (joinKeys parent child).parent = true := by
  -- The key is the foreign key of a relationship, or else the identifier.
  have formed := EntitySchema.wellFormed_of_checked (loaded.checked _ _ parentIn)
  unfold joinKeys
  split
  · rename_i relationship found
    obtain ⟨other, member, _⟩ := EntitySchema.relationshipTo?_ok found
    exact formed.foreignKeys _ member
  · split
    · exact formed.identifier
    · exact formed.identifier

/-- The field that joins a child is one of its own unless a relationship of the parent leaves it open. -/
theorem Registry.Consistent.declares_childKey_iff (consistent : registry.Consistent)
    (parentIn : (parentKey, parent) ∈ registry.entities)
    (childIn : (childKey, child) ∈ registry.entities) :
    child.declares (joinKeys parent child).child = true ↔ parent.leavesOpen child = false := by
  have formed := EntitySchema.wellFormed_of_checked (consistent.checked _ _ childIn)
  unfold joinKeys EntitySchema.leavesOpen
  cases found : parent.relationshipTo? child.name with
  | some relationship =>
    rcases relationship.otherKey_cases with ⟨silent, same⟩ | ⟨key, given, filled, same⟩
    -- Without a field for the other side the one of the parent's name is taken, and nothing checks it.
    · simp [same, silent]
    · have declared := consistent.declares_localKey parentIn childIn found given filled
      simp [same, declared, given, filled]
  | none =>
    cases back : child.relationshipTo? parent.name with
    | some relationship =>
      obtain ⟨other, member, _⟩ := EntitySchema.relationshipTo?_ok back
      simp [formed.foreignKeys _ member]
    | none => simp [formed.identifier]

/-- An entity of a document, with the fields that filters may use. -/
def entityDocument (table : String) (fields : List (String × String)) (filters : List String)
    (order : Value) (relationships : Entries Value) : Value :=
  .map [("tableName", .text table), ("identifierField", .text "id"),
    ("fields", .map (fields.map fun (name, type) => (name, .map [("type", .text type)]))),
    ("allowedFilterFields", .texts filters), ("defaultOrderBy", order),
    ("relationships", .map relationships)]

end Joinery
