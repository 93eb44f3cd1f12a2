import Joinery.Proofs.Filter.Admission

/-! A filter matches a row when it can be planned and its predicates hold of the row. -/

namespace Joinery

/-- Whether a filter is planned behind some values, and its predicates hold with its own values among them. -/
def EntitySchema.Matches (entity : EntitySchema) (filter : Filter) (before after : List Parameter)
    (relation : Relation) (row : Row) : Prop :=
  ∃ planned, planFilter entity before.length (some filter) = .ok planned ∧
    satisfies planned.predicates (before ++ planned.parameters ++ after) relation row = true

variable {entity : EntitySchema} {relation : Relation} {row : Row}

/-- A condition is placed wherever its operand can be converted. -/
theorem exists_placeCondition {condition : Condition} {binding : Binding}
    (converted : bindOperand entity condition = .ok binding) (place : Nat) :
    ∃ placed, placeCondition entity place condition = .ok placed := by
  -- A missing value is tested, every other one is compared, and neither can fail.
  rw [placeCondition, converted]
  dsimp only [Bind.bind, Except.bind]
  split <;> exact ⟨_, rfl⟩

/-- Conditions are placed exactly when all their operands can be converted. -/
theorem placeConditions_ok_iff {conditions : List Condition} (place : Nat) :
    (∃ placed, placeConditions entity place conditions = .ok placed) ↔
      ∀ condition ∈ conditions, ∃ binding, bindOperand entity condition = .ok binding := by
  -- Where a condition is placed plays no part in whether it can be.
  induction conditions generalizing place with
  | nil => exact iff_of_true ⟨_, rfl⟩ (List.forall_mem_nil _)
  | cons condition rest ih =>
    rw [List.forall_mem_cons]
    constructor
    · rintro ⟨placed, built⟩
      obtain ⟨first, own, built⟩ := bind_eq_ok.mp built
      obtain ⟨others, later, _⟩ := bind_eq_ok.mp built
      obtain ⟨binding, converted, _⟩ := bind_eq_ok.mp own
      exact ⟨⟨binding, converted⟩, (ih _).mp ⟨others, later⟩⟩
    · rintro ⟨⟨binding, converted⟩, others⟩
      obtain ⟨first, own⟩ := exists_placeCondition converted place
      obtain ⟨placed, later⟩ := (ih _).mpr others
      exact ⟨_, bind_eq_ok.mpr ⟨first, own, bind_eq_ok.mpr ⟨placed, later, rfl⟩⟩⟩

/-- A condition that holds of a row has an operand that can be converted. -/
theorem EntitySchema.exists_binding_of_holds {condition : Condition}
    (holds : entity.holds relation row condition = true) :
    ∃ binding, bindOperand entity condition = .ok binding := by
  -- An operand that cannot be converted makes its condition false.
  rw [EntitySchema.holds] at holds
  cases converted : bindOperand entity condition with
  | error fault => simp [converted] at holds
  | ok binding => exact ⟨binding, rfl⟩

/-- A filter matches exactly the rows that it admits, wherever its values are bound. -/
theorem EntitySchema.matches_iff_admits (filter : Filter) (before after : List Parameter) :
    entity.Matches filter before after relation row ↔
      entity.admits (some filter) relation row = true := by
  constructor
  · rintro ⟨planned, built, holds⟩
    rwa [planFilter_satisfies after built] at holds
  · intro admitted
    -- What is admitted was read, and every condition that holds was converted.
    have read : ∃ reading, Filter.read entity (some filter) = .ok reading ∧
        reading.conditions.all (entity.holds relation row) = true := by
      rw [EntitySchema.admits] at admitted
      cases read : Filter.read entity (some filter) with
      | error fault => simp [read] at admitted
      | ok reading => exact ⟨reading, rfl, by simpa [read] using admitted⟩
    obtain ⟨reading, read, all⟩ := read
    obtain ⟨⟨predicates, parameters⟩, placed⟩ := (placeConditions_ok_iff _).mpr
      fun condition member => exists_binding_of_holds (List.all_eq_true.mp all condition member)
    have built : planFilter entity before.length (some filter) = .ok ⟨predicates, parameters,
        reading.rejected.map fun field => entity.name ++ "." ++ field⟩ :=
      bind_eq_ok.mpr ⟨_, mapError_eq_ok.mpr read, bind_eq_ok.mpr ⟨_, mapError_eq_ok.mpr placed, rfl⟩⟩
    exact ⟨_, built, (planFilter_satisfies after built relation row).trans admitted⟩

end Joinery
