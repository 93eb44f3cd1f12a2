import Joinery.Plan.Basic
import Joinery.Proofs.Outcome

/-! Filters are read field by field: every condition is on a field that is open to filters. -/

namespace Joinery

variable {field key : String} {value : Value}

/-- What an operator says of a value: the operand, as an array where it goes with several values. -/
theorem readOperator_ok {comparator : Comparator} {found : Option Condition}
    (known : operator? key = some comparator) (read : readOperator field key value = .ok found) :
    ∃ operand placed, readOperand field value = .ok operand ∧
      found = some ⟨field, comparator, placed⟩ ∧ placed.isArray = comparator.takesArray ∧
      (comparator.takesArray = false → placed = operand) := by
  -- A single value is put into an array where the comparator takes one; an array is refused elsewhere.
  rw [readOperator, known] at read
  obtain ⟨operand, operandRead, read⟩ := bind_eq_ok.mp read
  cases operand with
  | scalar value =>
    cases takes : comparator.takesArray <;> rw [takes] at read <;> cases read
    · exact ⟨_, .scalar value, operandRead, rfl, rfl, fun _ => rfl⟩
    · exact ⟨_, .array [value], operandRead, rfl, rfl, nofun⟩
  | array values =>
    cases takes : comparator.takesArray <;> rw [takes] at read <;> cases read
    exact ⟨_, .array values, operandRead, rfl, rfl, nofun⟩

/-- What is not an operator object has to be a scalar, and sets one condition. -/
theorem readField_ok {conditions : List Condition} (read : readField field value = .ok conditions) :
    (∃ entries, value = .map entries ∧ readOperators field entries = .ok conditions) ∨
      ∃ scalar, readOperand field value = .ok (.scalar scalar) ∧
        conditions = [⟨field, .equal, .scalar scalar⟩] := by
  -- Only a mapping is read as operators, whatever is in it.
  by_cases object : ∃ entries, value = .map entries
  · obtain ⟨entries, rfl⟩ := object
    exact .inl ⟨entries, rfl, read⟩
  · rw [readField.eq_2 field value fun entries same => object ⟨entries, same⟩] at read
    obtain ⟨operand, operandRead, read⟩ := bind_eq_ok.mp read
    cases operand with
    | array values => contradiction
    | scalar value =>
      cases read
      exact .inr ⟨value, operandRead, rfl⟩

/-- An operator object is read operator by operator. -/
theorem readOperators_ok_iff {entries : List (String × Value)} {conditions : List Condition} :
    readOperators field entries = .ok conditions ↔ ∃ found : List (Option Condition),
      List.Forall₂ (fun entry one => readOperator field entry.1 entry.2 = .ok one) entries found ∧
        conditions = found.flatMap Option.toList := by
  -- What is read of the object is what is read of its first operator and of the rest.
  induction entries generalizing conditions with
  | nil => simp [readOperators, eq_comm]
  | cons entry rest ih =>
    constructor
    · intro read
      obtain ⟨one, first, read⟩ := bind_eq_ok.mp read
      obtain ⟨others, later, same⟩ := bind_eq_ok.mp read
      obtain ⟨found, aligned, rfl⟩ := ih.mp later
      cases same
      exact ⟨one :: found, .cons first aligned, rfl⟩
    · rintro ⟨_, aligned, rfl⟩
      cases aligned with
      | cons first aligned =>
        exact bind_eq_ok.mpr ⟨_, first, bind_eq_ok.mpr ⟨_, ih.mpr ⟨_, aligned, rfl⟩, rfl⟩⟩

/-- The condition of an operator is on the field of the operator object, with several values where it takes them. -/
theorem readOperator_condition {found : Option Condition}
    (read : readOperator field key value = .ok found) :
    ∀ condition ∈ found.toList, condition.field = field ∧
      condition.operand.isArray = condition.comparator.takesArray := by
  -- An unknown operator has no condition, and a known one has its own.
  cases known : operator? key with
  | none =>
    rw [readOperator, known] at read
    cases read
    simp
  | some comparator =>
    obtain ⟨operand, placed, _, rfl, arrays, _⟩ := readOperator_ok known read
    simpa using arrays

/-- So are all conditions of an operator object. -/
theorem readOperators_condition {entries : List (String × Value)} {conditions : List Condition}
    (read : readOperators field entries = .ok conditions) :
    ∀ condition ∈ conditions, condition.field = field ∧
      condition.operand.isArray = condition.comparator.takesArray := by
  -- Each condition comes from one operator.
  obtain ⟨found, aligned, rfl⟩ := readOperators_ok_iff.mp read
  intro condition member
  obtain ⟨one, inside, own⟩ := List.mem_flatMap.mp member
  obtain ⟨entry, _, first⟩ := exists_left_of_aligned aligned inside
  exact readOperator_condition first condition own

/-- A condition on a field is on that very field, with several values where its comparator takes them. -/
theorem readField_condition {conditions : List Condition}
    (read : readField field value = .ok conditions) :
    ∀ condition ∈ conditions, condition.field = field ∧
      condition.operand.isArray = condition.comparator.takesArray := by
  -- An operator object has the conditions of its operators, and a scalar the one of being equal.
  rcases readField_ok read with ⟨entries, rfl, read⟩ | ⟨scalar, _, rfl⟩
  · exact readOperators_condition read
  · simp [Operand.isArray, Comparator.takesArray]

variable {entity : EntitySchema}

/-- The conditions that one entry of a filter sets: none when its key is not open. -/
def EntitySchema.readEntry (entity : EntitySchema) (entry : String × Value) :
    Except Rejection (List Condition) :=
  match entity.allowedFilterField? entry.1 with
  | none => .ok []
  | some field => readField field entry.2

/-- A filter is read entry by entry. -/
theorem readConditions_ok_iff {entries : List (String × Value)} {conditions : List Condition} :
    (∃ rejected, readConditions entity entries = .ok ⟨conditions, rejected⟩) ↔
      ∃ found : List (List Condition),
        List.Forall₂ (fun entry own => entity.readEntry entry = .ok own) entries found ∧
          conditions = found.flatten := by
  -- A key that is not open adds no condition, and cannot fail.
  induction entries generalizing conditions with
  | nil => simp [readConditions, eq_comm]
  | cons entry rest ih =>
    obtain ⟨key, value⟩ := entry
    -- Going back and forth, the entry is taken off first, and the rest is the induction.
    constructor
    · rintro ⟨rejected, read⟩
      rw [readConditions] at read
      cases allowed : entity.allowedFilterField? key with
      | none =>
        rw [allowed] at read
        obtain ⟨later, others, same⟩ := bind_eq_ok.mp read
        obtain ⟨found, aligned, collected⟩ := ih.mp ⟨later.rejected, others⟩
        cases same
        refine ⟨[] :: found, .cons ?_ aligned, collected⟩
        rw [EntitySchema.readEntry, allowed]
      | some field =>
        rw [allowed] at read
        obtain ⟨own, first, read⟩ := bind_eq_ok.mp read
        obtain ⟨later, others, same⟩ := bind_eq_ok.mp read
        obtain ⟨found, aligned, collected⟩ := ih.mp ⟨later.rejected, others⟩
        cases same
        refine ⟨own :: found, .cons ?_ aligned, by rw [List.flatten_cons, ← collected]⟩
        rw [EntitySchema.readEntry, allowed]
        exact first
    · rintro ⟨_, aligned, rfl⟩
      cases aligned with
      | @cons _ own _ found first aligned =>
        obtain ⟨rejected, later⟩ := ih.mpr ⟨found, aligned, rfl⟩
        rw [EntitySchema.readEntry] at first
        rw [readConditions]
        -- Reading what has been found, the key decides again.
        cases allowed : entity.allowedFilterField? key with
        | none =>
          rw [allowed] at first
          cases first
          exact ⟨_, bind_eq_ok.mpr ⟨_, later, rfl⟩⟩
        | some field =>
          rw [allowed] at first
          exact ⟨_, bind_eq_ok.mpr ⟨_, first, bind_eq_ok.mpr ⟨_, later, rfl⟩⟩⟩

/-- An entry sets conditions on a field that is open to filters, with several values where they take them. -/
theorem EntitySchema.readEntry_condition {entry : String × Value} {conditions : List Condition}
    (read : entity.readEntry entry = .ok conditions) :
    ∀ condition ∈ conditions, condition.field ∈ entity.allowedFilterFields ∧
      condition.operand.isArray = condition.comparator.takesArray := by
  rw [readEntry] at read
  split at read
  · cases read
    simp
  · -- The field of a key is looked up among those that are open, so it is one of them.
    rename_i field allowed
    intro condition member
    obtain ⟨same, arrays⟩ := readField_condition read condition member
    exact ⟨same ▸ List.mem_of_find?_eq_some allowed, arrays⟩

/-- So do all entries of a filter. -/
theorem readConditions_condition {entries : List (String × Value)} {reading : Reading}
    (read : readConditions entity entries = .ok reading) :
    ∀ condition ∈ reading.conditions, condition.field ∈ entity.allowedFilterFields ∧
      condition.operand.isArray = condition.comparator.takesArray := by
  -- Each condition comes from one entry.
  obtain ⟨found, aligned, collected⟩ := readConditions_ok_iff.mp ⟨reading.rejected, read⟩
  intro condition member
  rw [collected] at member
  obtain ⟨own, inside, member⟩ := List.mem_flatten.mp member
  obtain ⟨entry, _, first⟩ := exists_left_of_aligned aligned inside
  exact EntitySchema.readEntry_condition first condition member

/-- So are the conditions of a filter, if there is one. -/
theorem Filter.read_condition {filter : Option Filter} {reading : Reading}
    (read : Filter.read entity filter = .ok reading) :
    ∀ condition ∈ reading.conditions, condition.field ∈ entity.allowedFilterFields ∧
      condition.operand.isArray = condition.comparator.takesArray := by
  -- Without a filter there is no condition.
  cases filter with
  | none =>
    cases read
    simp
  | some filter => exact readConditions_condition read

/-- The predicates of placed conditions are on the fields of the conditions. -/
theorem placeConditions_columns {place : Nat} {conditions : List Condition}
    {placed : List Predicate × List Parameter}
    (built : placeConditions entity place conditions = .ok placed) :
    placed.1.map Predicate.column = conditions.map Condition.field := by
  -- A test for null and a comparison are both on the field of the condition.
  induction conditions generalizing place placed with
  | nil =>
    cases built
    rfl
  | cons condition rest ih =>
    obtain ⟨⟨predicate, own⟩, first, built⟩ := bind_eq_ok.mp built
    obtain ⟨others, later, same⟩ := bind_eq_ok.mp built
    cases same
    obtain ⟨binding, _, first⟩ := bind_eq_ok.mp first
    have column : predicate.column = condition.field := by
      split at first <;> cases first <;> rfl
    rw [List.map_cons, List.map_cons, column, ih later]

end Joinery
