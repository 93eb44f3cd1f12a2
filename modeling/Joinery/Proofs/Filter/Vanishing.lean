import Joinery.Proofs.Filter.Pruning

/-! A filter that says something can still come to no condition at all. -/

namespace Joinery

/-- Whether a value is an operator object without any operator that is known. -/
def Value.setsNothing : Value → Bool
  | .map entries => entries.all fun (key, _) => (operator? key).isNone
  | _ => false

variable {field : String} {value : Value} {entity : EntitySchema}

/-- An operator sets a condition exactly when it is known. -/
theorem readOperator_eq_none {key : String} {found : Option Condition}
    (read : readOperator field key value = .ok found) : found = none ↔ operator? key = none := by
  -- An unknown operator is passed over, and a known one is a condition.
  cases known : operator? key with
  | none =>
    rw [readOperator, known] at read
    cases read
    exact iff_of_true rfl rfl
  | some comparator =>
    obtain ⟨operand, placed, _, rfl, _⟩ := readOperator_ok known read
    exact iff_of_false (Option.some_ne_none _) (Option.some_ne_none _)

/-- An operator object sets no condition exactly when none of its operators is known. -/
theorem readOperators_eq_nil {entries : List (String × Value)} {conditions : List Condition}
    (read : readOperators field entries = .ok conditions) :
    conditions = [] ↔ entries.all (fun (key, _) => (operator? key).isNone) = true := by
  obtain ⟨found, aligned, rfl⟩ := readOperators_ok_iff.mp read
  rw [List.flatMap_eq_nil_iff, List.all_eq_true]
  -- Each operator adds nothing exactly when it is not known.
  constructor
  · intro empty entry member
    obtain ⟨one, inside, first⟩ := exists_right_of_aligned aligned member
    exact Option.isNone_iff_eq_none.mpr
      ((readOperator_eq_none first).mp (Option.toList_eq_nil_iff.mp (empty one inside)))
  · intro unknown one inside
    obtain ⟨entry, member, first⟩ := exists_left_of_aligned aligned inside
    exact Option.toList_eq_nil_iff.mpr
      ((readOperator_eq_none first).mpr (Option.isNone_iff_eq_none.mp (unknown entry member)))

/-- A field is left without a condition exactly when an object without known operators stands there. -/
theorem readField_eq_nil {conditions : List Condition}
    (read : readField field value = .ok conditions) :
    conditions = [] ↔ value.setsNothing = true := by
  rcases readField_ok read with ⟨entries, rfl, operators⟩ | ⟨scalar, operand, rfl⟩
  · exact readOperators_eq_nil operators
  · -- A scalar is a condition of its own, and an operator object is no scalar.
    refine iff_of_false (List.cons_ne_nil _ _) fun idle => ?_
    cases value <;> contradiction

/-- An entry sets no condition exactly when its key is closed or it sets nothing. -/
theorem EntitySchema.readEntry_eq_nil {entry : String × Value} {conditions : List Condition}
    (read : entity.readEntry entry = .ok conditions) :
    conditions = [] ↔ entity.opens entry.1 = false ∨ entry.2.setsNothing = true := by
  -- A closed key is passed over, and an open one is left to what stands under it.
  rw [readEntry] at read
  cases allowed : entity.allowedFilterField? entry.1 with
  | none =>
    rw [allowed] at read
    cases read
    exact iff_of_true rfl (.inl (opens_of_none allowed))
  | some field =>
    rw [allowed] at read
    rw [readField_eq_nil read, opens_of_some allowed]
    simp

/-- A filter comes to no condition exactly when each of its keys is closed or sets nothing. -/
theorem readConditions_eq_nil {entries : List (String × Value)} {reading : Reading}
    (read : readConditions entity entries = .ok reading) :
    reading.conditions = [] ↔
      ∀ entry ∈ entries, entity.opens entry.1 = false ∨ entry.2.setsNothing = true := by
  -- Conditions are collected entry by entry, so there are none when no entry has any.
  obtain ⟨found, aligned, collected⟩ := readConditions_ok_iff.mp ⟨reading.rejected, read⟩
  rw [collected, List.flatten_eq_nil_iff]
  constructor
  · intro empty entry member
    obtain ⟨own, inside, first⟩ := exists_right_of_aligned aligned member
    exact (EntitySchema.readEntry_eq_nil first).mp (empty own inside)
  · intro idle own inside
    obtain ⟨entry, member, first⟩ := exists_left_of_aligned aligned inside
    exact (EntitySchema.readEntry_eq_nil first).mpr (idle entry member)

/-- A filter is planned without a predicate exactly when each of its keys is closed or sets nothing. -/
theorem planFilter_eq_nil {place : Nat} {filter : Filter} {planned : PlannedFilter}
    (built : planFilter entity place (some filter) = .ok planned) :
    planned.predicates = [] ↔
      ∀ entry ∈ filter.conditions, entity.opens entry.1 = false ∨ entry.2.setsNothing = true := by
  obtain ⟨reading, read, built⟩ := bind_eq_ok.mp built
  obtain ⟨placed, first, same⟩ := bind_eq_ok.mp built
  cases same
  -- There is one predicate for each condition.
  have columns := placeConditions_columns (mapError_eq_ok.mp first)
  have none : placed.1 = [] ↔ reading.conditions = [] := by
    rw [← List.map_eq_nil_iff (f := Predicate.column), columns, List.map_eq_nil_iff]
  exact none.trans (readConditions_eq_nil (mapError_eq_ok.mp read))

end Joinery
