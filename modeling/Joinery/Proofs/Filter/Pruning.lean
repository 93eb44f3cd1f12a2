import Joinery.Proofs.Filter.Reading

/-! What a filter says under keys that are not open to filters is never looked at. -/

namespace Joinery

/-- Whether a key of a filter names a field that the entity opens to filters, letter case aside. -/
def EntitySchema.opens (entity : EntitySchema) (key : String) : Bool :=
  (entity.allowedFilterField? key).isSome

/-- A filter without the keys that its entity does not open. -/
def EntitySchema.prune (entity : EntitySchema) (filter : Filter) : Filter :=
  { filter with conditions := filter.conditions.filter fun (key, _) => entity.opens key }

/-- The keys that pruning deletes from a filter, each behind the name of the entity. -/
def EntitySchema.closedKeys (entity : EntitySchema) (filter : Option Filter) : List String :=
  ((filter.map Filter.conditions).getD []).filterMap fun (key, _) =>
    if entity.opens key then none else some (entity.name ++ "." ++ key)

variable {entity : EntitySchema}

/-- A key without a field is not open. -/
theorem EntitySchema.opens_of_none {key : String} (closed : entity.allowedFilterField? key = none) :
    entity.opens key = false := by
  -- A key is open when a field is found for it.
  rw [opens, closed]
  rfl

/-- A key with a field is open. -/
theorem EntitySchema.opens_of_some {key field : String}
    (found : entity.allowedFilterField? key = some field) : entity.opens key = true := by
  -- A key is open when a field is found for it.
  rw [opens, found]
  rfl

/-- Keys that are not open decide what is left out, and nothing else. -/
theorem readConditions_pruned (entries : List (String × Value)) :
    readConditions entity (entries.filter fun (key, _) => entity.opens key) =
      (readConditions entity entries).map fun reading => { reading with rejected := [] } := by
  -- A key that is not open is passed over on the left and left out on the right.
  induction entries with
  | nil => rfl
  | cons entry rest ih =>
    obtain ⟨key, value⟩ := entry
    cases allowed : entity.allowedFilterField? key with
    | none =>
      rw [List.filter_cons_of_neg (by simp [EntitySchema.opens_of_none allowed]), ih]
      conv_rhs => rw [readConditions, allowed]
      cases readConditions entity rest <;> rfl
    | some field =>
      rw [List.filter_cons_of_pos (by exact EntitySchema.opens_of_some allowed), readConditions,
        allowed, ih]
      conv_rhs => rw [readConditions, allowed]
      dsimp only
      cases readField field value with
      | error fault => rfl
      | ok conditions => cases readConditions entity rest <;> rfl

/-- A reading leaves out the keys that are not open, in the order of the document. -/
theorem readConditions_rejected {entries : List (String × Value)} {reading : Reading}
    (read : readConditions entity entries = .ok reading) :
    reading.rejected = entries.filterMap fun (key, _) =>
      if entity.opens key then none else some key := by
  -- Each key that has no field is put before those of the rest.
  induction entries generalizing reading with
  | nil =>
    cases read
    rfl
  | cons entry rest ih =>
    obtain ⟨key, value⟩ := entry
    rw [readConditions] at read
    cases allowed : entity.allowedFilterField? key with
    | none =>
      rw [allowed] at read
      obtain ⟨later, others, same⟩ := bind_eq_ok.mp read
      cases same
      simp [EntitySchema.opens_of_none allowed, ih others]
    | some field =>
      rw [allowed] at read
      obtain ⟨conditions, first, read⟩ := bind_eq_ok.mp read
      obtain ⟨later, others, same⟩ := bind_eq_ok.mp read
      cases same
      simp [EntitySchema.opens_of_some allowed, ih others]

variable {place : Nat} {filter : Option Filter}

/-- A pruned filter is planned as the whole one, with nothing left out. -/
theorem planFilter_pruned (entity : EntitySchema) (place : Nat) (filter : Option Filter) :
    planFilter entity place (filter.map entity.prune) =
      (planFilter entity place filter).map fun planned => { planned with rejected := [] } := by
  have read : Filter.read entity (filter.map entity.prune) =
      (Filter.read entity filter).map fun reading => { reading with rejected := [] } := by
    cases filter with
    | none => rfl
    | some given => exact readConditions_pruned given.conditions
  rw [planFilter, planFilter, read]
  cases Filter.read entity filter with
  | error fault => rfl
  | ok reading =>
    -- Both place the same conditions, and differ in what they tell afterwards.
    change ((placeConditions entity place reading.conditions).mapError _ >>= _) =
      Except.map _ ((placeConditions entity place reading.conditions).mapError _ >>= _)
    cases placeConditions entity place reading.conditions <;> rfl

variable {planned : PlannedFilter}

/-- Planning a filter leaves out exactly the keys that pruning deletes. -/
theorem planFilter_rejected (built : planFilter entity place filter = .ok planned) :
    planned.rejected = entity.closedKeys filter := by
  -- The rejected keys are those of the reading, and placing the conditions adds none.
  obtain ⟨reading, read, built⟩ := bind_eq_ok.mp built
  obtain ⟨placed, _, same⟩ := bind_eq_ok.mp built
  cases same
  have read := mapError_eq_ok.mp read
  cases filter with
  | none =>
    cases read
    rfl
  | some given =>
    rw [readConditions_rejected read, List.map_filterMap, EntitySchema.closedKeys]
    refine List.filterMap_congr fun ⟨key, _⟩ _ => ?_
    dsimp only
    split <;> rfl

/-- The predicates of a planned filter are on fields that are open to filters. -/
theorem planFilter_columns (built : planFilter entity place filter = .ok planned) :
    ∀ predicate ∈ planned.predicates, predicate.column ∈ entity.allowedFilterFields := by
  -- A predicate is on the field of its condition, and the field of a condition is open.
  obtain ⟨reading, read, built⟩ := bind_eq_ok.mp built
  obtain ⟨placed, first, same⟩ := bind_eq_ok.mp built
  cases same
  have columns := placeConditions_columns (mapError_eq_ok.mp first)
  have read := mapError_eq_ok.mp read
  intro predicate member
  have inside : predicate.column ∈ reading.conditions.map Condition.field :=
    columns ▸ List.mem_map_of_mem member
  obtain ⟨condition, found, same⟩ := List.mem_map.mp inside
  rw [← same]
  exact (Filter.read_condition read condition found).1

end Joinery
