import Joinery.Proofs.Filter.Matching
import Joinery.Proofs.Filter.Pruning

/-! Filters that set the same conditions in another order admit the same rows. -/

namespace Joinery

/-- Two filters that set the same conditions on an entity, in whatever order. -/
structure EntitySchema.Rephrases (entity : EntitySchema) (filter other : Option Filter) : Prop where
  /-- Both can be read, with the same conditions up to order, or neither can. -/
  read : LikeOutcome (fun _ _ => True) (fun reading changed : Reading =>
    changed.conditions.Perm reading.conditions) (Filter.read entity filter) (Filter.read entity other)
  /-- The same keys are not open. -/
  closed : (entity.closedKeys other).Perm (entity.closedKeys filter)
  /-- The caps are the same. -/
  limit : other.bind Filter.limit = filter.bind Filter.limit

variable {entity : EntitySchema} {filter other : Option Filter}

/-- The same rows are admitted. -/
theorem EntitySchema.Rephrases.admits (rephrases : entity.Rephrases filter other) :
    entity.admits other = entity.admits filter := by
  -- All conditions hold in one order when they do in the other.
  funext relation row
  have read := rephrases.read
  rw [EntitySchema.admits, EntitySchema.admits]
  generalize Filter.read entity filter = first, Filter.read entity other = second at read
  cases read with
  | fault => rfl
  | success permuted => exact permuted.all_eq

/-- The caps are the same inside a registry. -/
theorem EntitySchema.Rephrases.entityLimit (rephrases : entity.Rephrases filter other)
    (registry : Registry) : registry.entityLimit other = registry.entityLimit filter := by
  rw [Registry.entityLimit, Registry.entityLimit, rephrases.limit]

/-- A filter that is planned somewhere is planned anywhere in other words, on the same columns. -/
theorem EntitySchema.Rephrases.planFilter (rephrases : entity.Rephrases filter other) {place : Nat}
    {planned : PlannedFilter} (built : planFilter entity place filter = .ok planned)
    (elsewhere : Nat) :
    ∃ changed, Joinery.planFilter entity elsewhere other = .ok changed ∧
      (changed.predicates.map (·.column)).Perm (planned.predicates.map (·.column)) := by
  obtain ⟨reading, read, built⟩ := bind_eq_ok.mp built
  obtain ⟨placed, first, same⟩ := bind_eq_ok.mp built
  cases same
  have first := mapError_eq_ok.mp first
  obtain ⟨changed, readToo, permuted⟩ := rephrases.read.exists_ok (mapError_eq_ok.mp read)
  -- Every condition was converted, wherever it stands.
  have converted := (placeConditions_ok_iff _).mp ⟨placed, first⟩
  obtain ⟨placedToo, second⟩ := (placeConditions_ok_iff elsewhere).mpr
    fun condition member => converted condition (permuted.mem_iff.mp member)
  let moved : PlannedFilter :=
    ⟨placedToo.1, placedToo.2, changed.rejected.map fun field => entity.name ++ "." ++ field⟩
  refine ⟨moved, bind_eq_ok.mpr ⟨_, mapError_eq_ok.mpr readToo,
    bind_eq_ok.mpr ⟨_, mapError_eq_ok.mpr second, rfl⟩⟩, ?_⟩
  change (placedToo.1.map Predicate.column).Perm (placed.1.map Predicate.column)
  rw [placeConditions_columns second, placeConditions_columns first]
  exact permuted.map _

/-- The predicates of a planned filter are on the same columns in other words. -/
theorem EntitySchema.Rephrases.columns {entity : EntitySchema} {filter changed : Option Filter}
    (rephrases : entity.Rephrases filter changed) {place elsewhere : Nat}
    {planned paired : PlannedFilter} (built : Joinery.planFilter entity place filter = .ok planned)
    (builtToo : Joinery.planFilter entity elsewhere changed = .ok paired) :
    (paired.predicates.map (·.column)).Perm (planned.predicates.map (·.column)) := by
  -- The plan of the other filter was found with these columns, and there is one plan only.
  obtain ⟨found, same, columns⟩ := rephrases.planFilter built elsewhere
  cases same.symm.trans builtToo
  exact columns

end Joinery
