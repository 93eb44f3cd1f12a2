import Joinery.Plan.JoinOrder
import Joinery.Proofs.Outcome
import Joinery.Proofs.Value.Entries
import Joinery.Schema.Document

/-! What every registry has that was read from a document: checked entities under their own names. -/

namespace Joinery

/-- An applied reading is valid exactly when both of its parts are. -/
theorem Checked.and_eq_valid {α β : Type} {change : Checked (α → β)} {value : Checked α}
    {result : β} :
    change.and value = .valid result ↔
      ∃ f a, change = .valid f ∧ value = .valid a ∧ f a = result := by
  -- Any issue on either side makes the whole invalid.
  cases change <;> cases value <;> simp [Checked.and]

/-- An entity keeps the name under which it is read. -/
theorem entityParts_name {name : String} {entries : Entries Value} {entity : EntitySchema}
    (read : Reader.entityParts name entries = .valid entity) : entity.name = name := by
  -- The name is fixed before any part of the entity is read.
  simp only [Reader.entityParts, Checked.and_eq_valid, Checked.valid.injEq] at read
  obtain ⟨_, _, ⟨_, _, ⟨_, _, ⟨_, _, ⟨_, _, ⟨_, _, ⟨_, _, rfl, _, rfl⟩, _, rfl⟩, _, rfl⟩, _, rfl⟩,
    _, rfl⟩, _, rfl⟩, _, rfl⟩ := read
  rfl

/-- An entity that was read has its name, and its parts go together. -/
theorem readEntity_ok {name : String} {value : Value} {entity : EntitySchema}
    (read : readEntity name value = .ok entity) : entity.name = name ∧ entity.fault? = none := by
  -- Only a mapping whose parts are valid and free of faults becomes an entity.
  cases value with
  | map entries =>
    simp only [readEntity, Reader.entity] at read
    cases parts : Reader.entityParts name entries with
    | invalid issues => simp [parts] at read
    | valid candidate =>
      cases fault : candidate.fault? with
      | some found => simp [parts, fault, Checked.fail] at read
      | none =>
        simp only [parts, fault, Except.ok.injEq] at read
        subst read
        exact ⟨entityParts_name parts, fault⟩
  | _ => simp [readEntity] at read

/-- Entered entities follow those entered before, each under its name in lower case. -/
theorem enterEntities_ok {named : List (String × EntitySchema)} {entered result : Entries EntitySchema}
    (built : enterEntities entered named = .ok result) :
    result = entered ++ named.map fun (name, entity) => (lowered name, entity) := by
  -- Each round appends one entity, or ends with a repeated name.
  induction named generalizing entered with
  | nil => simpa [enterEntities] using built.symm
  | cons pair rest ih =>
    obtain ⟨name, entity⟩ := pair
    simp only [enterEntities] at built
    split at built
    · contradiction
    · simpa using ih built

/-- The caps of a registry are positive, and it holds the entities that it was given. -/
theorem Registry.ofEntities_ok {named : List (String × EntitySchema)} {defaultLimit maxLimit : Int}
    {registry : Registry} (built : ofEntities named defaultLimit maxLimit = .ok registry) :
    0 < registry.defaultLimit ∧ 0 < registry.maxLimit ∧
      registry.entities = named.map fun (name, entity) => (lowered name, entity) := by
  -- Caps are checked first, then names, then the targets of relationships.
  simp only [ofEntities] at built
  split at built
  · contradiction
  · rename_i positive
    obtain ⟨entities, entered, checked⟩ := bind_eq_ok.mp built
    have contents := enterEntities_ok entered
    split at checked
    · contradiction
    · cases checked
      simp only [List.nil_append] at contents
      exact ⟨Int.not_le.mp fun low => positive (.inl low),
        Int.not_le.mp fun low => positive (.inr low), contents⟩

/-- A registry whose entities are checked and stand under their own names in lower case. -/
structure Registry.Loaded (registry : Registry) : Prop where
  /-- Every entity passed its own check. -/
  checked : ∀ key entity, (key, entity) ∈ registry.entities → entity.fault? = none
  /-- Every entity stands under its own name. -/
  named : ∀ key entity, (key, entity) ∈ registry.entities → entity.key = key
  /-- The cap of a query that asks for none is positive. -/
  defaultLimit_pos : 0 < registry.defaultLimit
  /-- The largest cap is positive. -/
  maxLimit_pos : 0 < registry.maxLimit

/-- Every registry that was read from a document is loaded. -/
theorem Registry.loaded_of_ofDocument {document : Value} {registry : Registry}
    (read : ofDocument document = .ok registry) : registry.Loaded := by
  -- Every entity of the registry comes from one entry of the document.
  cases document with
  | map entries =>
    obtain ⟨sources, _, rest⟩ := bind_eq_ok.mp read
    obtain ⟨named, entities, rest⟩ := bind_eq_ok.mp rest
    obtain ⟨defaultLimit, _, rest⟩ := bind_eq_ok.mp rest
    obtain ⟨maxLimit, _, built⟩ := bind_eq_ok.mp rest
    obtain ⟨defaultPos, maxPos, contents⟩ := ofEntities_ok built
    have origin : ∀ key entity, (key, entity) ∈ registry.entities →
        entity.key = key ∧ entity.fault? = none := by
      intro key entity member
      rw [contents, List.mem_map] at member
      obtain ⟨⟨name, found⟩, inside, same⟩ := member
      cases same
      obtain ⟨⟨source, value⟩, _, computed⟩ := exists_left_of_aligned (mapM_eq_ok.mp entities) inside
      obtain ⟨candidate, readOne, pair⟩ := bind_eq_ok.mp computed
      cases pair
      obtain ⟨sameName, valid⟩ := readEntity_ok readOne
      exact ⟨congrArg lowered sameName, valid⟩
    exact ⟨fun key entity member => (origin key entity member).2,
      fun key entity member => (origin key entity member).1, defaultPos, maxPos⟩
  | _ => simp [ofDocument] at read

/-- An entity that a registry finds stands in it under the requested name in lower case. -/
theorem Registry.require_ok {registry : Registry} {name : Value} {entity : EntitySchema}
    (found : registry.require name = .ok entity) :
    ∃ s, name = .text s ∧ registry.entities.get? (lowered s) = some entity := by
  -- Only a text that is not empty is looked up at all.
  simp only [Registry.require] at found
  split at found
  · cases name with
    | text s =>
      cases located : registry.lookup? s with
      | none => simp [located] at found
      | some candidate =>
        simp only [located, Except.ok.injEq] at found
        subst found
        simp only [Registry.lookup?] at located
        split at located
        · contradiction
        · exact ⟨s, rfl, located⟩
    | _ => contradiction
  · contradiction

/-- Two entities of a loaded registry that have one name are one entity. -/
theorem Registry.Loaded.eq_of_key {registry : Registry} (loaded : registry.Loaded)
    {first second : Value} {a b : EntitySchema} (foundA : registry.require first = .ok a)
    (foundB : registry.require second = .ok b) (same : a.key = b.key) : a = b := by
  -- The name in lower case decides what is found.
  obtain ⟨s, _, atA⟩ := Registry.require_ok foundA
  obtain ⟨t, _, atB⟩ := Registry.require_ok foundB
  have keyA := loaded.named _ _ (Entries.mem_of_get? atA)
  have keyB := loaded.named _ _ (Entries.mem_of_get? atB)
  rw [← keyA, same, keyB] at atA
  exact Option.some.inj (atA.symm.trans atB)

/-- An entity that a loaded registry finds passed its own check. -/
theorem Registry.Loaded.fault?_eq_none {registry : Registry} (loaded : registry.Loaded)
    {name : Value} {entity : EntitySchema} (found : registry.require name = .ok entity) :
    entity.fault? = none := by
  -- What is found stands in the registry.
  obtain ⟨s, _, located⟩ := Registry.require_ok found
  exact loaded.checked _ _ (Entries.mem_of_get? located)

/-- An entity whose parts go together. -/
structure EntitySchema.WellFormed (entity : EntitySchema) : Prop where
  /-- The table has the form of a name. -/
  table : isName entity.tableName = true
  /-- So has every field. -/
  fields : ∀ field ∈ entity.fieldNames, isName field = true
  /-- The identifier is one of the fields. -/
  identifier : entity.declares entity.identifierField = true
  /-- Filters use fields only. -/
  filters : ∀ field ∈ entity.allowedFilterFields, entity.declares field = true
  /-- Relationships start from fields. -/
  foreignKeys : ∀ pair ∈ entity.relationships, entity.declares pair.2.foreignKey = true
  /-- Ranking terms name fields. -/
  order : ∀ term ∈ entity.orderTerms, entity.acceptsTerm term = true

/-- A search for what does not hold passes over everything when it finds nothing. -/
theorem forall_of_find?_ne_some {α : Type} {items : List α} {holds : α → Bool}
    (nothing : ∀ item, ¬ items.find? (fun item => !holds item) = some item) :
    ∀ item ∈ items, holds item = true := by
  -- The search would have found the item.
  intro item member
  have passed :=
    List.find?_eq_none.mp (Option.eq_none_iff_forall_ne_some.mpr nothing) item member
  simpa using passed

/-- An entity without a fault is well formed. -/
theorem EntitySchema.wellFormed_of_checked {entity : EntitySchema} (checked : entity.fault? = none) :
    entity.WellFormed := by
  -- A check looks for one kind of fault after the other and ends at the first one.
  unfold fault? at checked
  dsimp only at checked
  split at checked
  · contradiction
  rename_i table
  split at checked
  · contradiction
  rename_i fields
  split at checked
  · contradiction
  rename_i identifier
  split at checked
  · contradiction
  rename_i filters
  split at checked
  · contradiction
  rename_i foreignKeys
  split at checked
  · contradiction
  rename_i order
  -- Every guard was passed, and says in its own words what is declared.
  simp only [Bool.not_eq_true', Bool.not_eq_false] at table identifier
  refine ⟨table, forall_of_find?_ne_some fields, identifier, fun field member => ?_,
    forall_of_find?_ne_some fun pair => foreignKeys pair.1 pair.2, forall_of_find?_ne_some order⟩
  simp only [Bool.not_eq_true', Bool.not_eq_false, List.isEmpty_iff, List.filter_eq_nil_iff]
    at filters
  simpa using filters field member

/-- The identifier of a checked entity is one of its fields. -/
theorem EntitySchema.declares_identifier {entity : EntitySchema} (checked : entity.fault? = none) :
    entity.declares entity.identifierField = true :=
  (wellFormed_of_checked checked).identifier

end Joinery
