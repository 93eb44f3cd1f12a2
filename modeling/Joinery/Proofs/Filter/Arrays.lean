import Joinery.Proofs.Database.Joining
import Joinery.Proofs.Filter.Matching
import Joinery.Proofs.Filter.Shape
import Joinery.Proofs.Query.Wording
import Joinery.Proofs.Service.Running

/-! What an operator says of an array, it says of each value in it that is not null. -/

namespace Joinery

/-- One of several truths holds when any of them does. -/
theorem Truth.any_holds (truths : List Truth) : (Truth.any truths).holds = truths.any Truth.holds := by
  have sought : truths.any Truth.holds = truths.contains (some true) := by
    rw [List.contains_eq_any_beq]
    exact congrArg truths.any (funext fun truth => Bool.beq_comm)
  -- An open comparison is only looked for where none is true.
  rw [sought, Truth.any]
  cases truths.contains (some true) with
  | true => rfl
  | false => cases truths.contains none <;> rfl

/-- None of several truths holds when each of them is settled as false. -/
theorem Truth.not_any_holds (truths : List Truth) :
    (Truth.any truths).not.holds = truths.all (·.not.holds) := by
  -- Each truth that is settled as false is neither true nor open.
  have settled : truths.all (·.not.holds) =
      (!truths.contains (some true) && !truths.contains none) := by
    induction truths with
    | nil => rfl
    | cons truth rest ih =>
      rw [List.all_cons, ih, List.contains_cons, List.contains_cons]
      rcases truth with _ | _ | _ <;> simp [Truth.not, Truth.holds]
  rw [settled, Truth.any]
  cases truths.contains (some true) with
  | true => rfl
  | false => cases truths.contains none <;> rfl

/-- A comparison with no value is open. -/
@[simp] theorem Cell.equals_null (cell : Cell) : cell.equals .null = none := by
  rw [equals, compare?]
  cases cell <;> rfl

variable {entity : EntitySchema} {field : String} {relation : Relation} {row : Row}

/-- What the comparison of a field with a value comes to, the value seen as its column sees it. -/
def EntitySchema.equality (relation : Relation) (row : Row) (field : String) (value : BoundValue) :
    Truth :=
  let name := readBack field
  (relation.cell name row).equals ((relation.affinity name).apply value.cell)

/-- A null value is equal to nothing. -/
@[simp] theorem EntitySchema.equality_null : equality relation row field .null = none := by
  simp [equality, BoundValue.cell, Affinity.apply_null]

/-- Values that can be converted are bound together in their order. -/
theorem bindOperand_array (comparator : Comparator) {values : List Scalar}
    (convertible : ∀ value ∈ values, ∃ bound,
      bindValue 0 field (entity.fieldType field) value.toValue = .ok bound) :
    ∃ bounds, bindOperand entity ⟨field, comparator, .array values⟩ = .ok (.many bounds) ∧
      List.Forall₂ (fun value bound =>
        bindValue 0 field (entity.fieldType field) value.toValue = .ok bound) values bounds := by
  -- One value that cannot be converted would spoil the array, but there is none.
  obtain ⟨bounds, converted⟩ := exists_mapM convertible
  exact ⟨bounds, map_eq_ok.mpr ⟨bounds, converted, rfl⟩, mapM_eq_ok.mp converted⟩

/-- A scalar is converted to null exactly when it is null. -/
theorem bindValue_scalar_eq_null {type : SemanticType} {value : Scalar} {bound : BoundValue}
    (converted : bindValue 0 field type value.toValue = .ok bound) : bound = .null ↔ value = .null := by
  -- Converting keeps null, and a scalar is null only where it is written so.
  rw [bindValue_eq_null converted]
  cases value <;> simp [Scalar.toValue, Value.isNull]

variable {value : Scalar} {bound : BoundValue}

/-- A field matches a value that is not null when it is equal to it. -/
theorem EntitySchema.holds_equal
    (converted : bindValue 0 field (entity.fieldType field) value.toValue = .ok bound)
    (given : value ≠ .null) :
    entity.holds relation row ⟨field, .equal, .scalar value⟩ =
      (equality relation row field bound).holds := by
  -- The operand is no null, so the two are compared and nothing is rewritten.
  have filled := mt (bindValue_scalar_eq_null converted).mp given
  simp only [holds, bindOperand, converted, Except.map]
  cases bound <;> first | contradiction | rfl

/-- A field matches the opposite of a value that is not null when it is settled not to be equal to it. -/
theorem EntitySchema.holds_notEqual
    (converted : bindValue 0 field (entity.fieldType field) value.toValue = .ok bound)
    (given : value ≠ .null) :
    entity.holds relation row ⟨field, .notEqual, .scalar value⟩ =
      (equality relation row field bound).not.holds := by
  -- As before, there is a value to be compared.
  have filled := mt (bindValue_scalar_eq_null converted).mp given
  simp only [holds, bindOperand, converted, Except.map]
  cases bound <;> first | contradiction | rfl

variable {values : List Scalar}

/-- A field is in an array exactly when it equals a value of it that is not null. -/
theorem EntitySchema.holds_isIn_iff (convertible : ∀ value ∈ values, ∃ bound,
    bindValue 0 field (entity.fieldType field) value.toValue = .ok bound) :
    entity.holds relation row ⟨field, .isIn, .array values⟩ = true ↔
      ∃ value ∈ values, value ≠ .null ∧
        entity.holds relation row ⟨field, .equal, .scalar value⟩ = true := by
  obtain ⟨bounds, bound, aligned⟩ := bindOperand_array .isIn convertible
  have read : entity.holds relation row ⟨field, .isIn, .array values⟩ =
      bounds.any fun bound => (equality relation row field bound).holds := by
    simp only [holds, bound, Binding.judge, Comparator.judgeMany, Truth.any_holds, List.any_map]
    rfl
  rw [read, List.any_eq_true]
  constructor
  · rintro ⟨bound, member, equal⟩
    obtain ⟨value, inside, converted⟩ := exists_left_of_aligned aligned member
    -- Null is equal to nothing, so the value is another one.
    have given : value ≠ .null := by
      intro null
      rw [(bindValue_scalar_eq_null converted).mpr null] at equal
      simp [Truth.holds] at equal
    exact ⟨value, inside, given, (holds_equal converted given).trans equal⟩
  · rintro ⟨value, inside, given, equal⟩
    obtain ⟨bound, member, converted⟩ := exists_right_of_aligned aligned inside
    exact ⟨bound, member, (holds_equal converted given).symm.trans equal⟩

/-- An array of one value matches what equals that value, unless it is null. -/
theorem EntitySchema.holds_isIn_single (value : Scalar) :
    entity.holds relation row ⟨field, .isIn, .array [value]⟩ = true ↔
      value ≠ .null ∧ entity.holds relation row ⟨field, .equal, .scalar value⟩ = true := by
  cases converted : bindValue 0 field (entity.fieldType field) value.toValue with
  | ok bound => simpa using holds_isIn_iff (List.forall_mem_singleton.mpr ⟨bound, converted⟩)
  | error fault =>
    -- A value that cannot be converted matches nothing in either form.
    simp [holds, bindOperand, converted, Except.map, Bind.bind, Except.bind]

/-- A field is outside an array exactly when null is not in it and the field equals none of its values. -/
theorem EntitySchema.holds_notIn_iff (convertible : ∀ value ∈ values, ∃ bound,
    bindValue 0 field (entity.fieldType field) value.toValue = .ok bound) :
    entity.holds relation row ⟨field, .notIn, .array values⟩ = true ↔
      .null ∉ values ∧ ∀ value ∈ values,
        entity.holds relation row ⟨field, .notEqual, .scalar value⟩ = true := by
  obtain ⟨bounds, bound, aligned⟩ := bindOperand_array .notIn convertible
  have read : entity.holds relation row ⟨field, .notIn, .array values⟩ =
      bounds.all fun bound => (equality relation row field bound).not.holds := by
    simp only [holds, bound, Binding.judge, Comparator.judgeMany, Truth.not_any_holds, List.all_map]
    rfl
  rw [read, List.all_eq_true]
  constructor
  · intro apart
    -- A null among the values would leave the comparison open.
    have full : .null ∉ values := by
      intro inside
      obtain ⟨bound, member, converted⟩ := exists_right_of_aligned aligned inside
      have unsettled := apart bound member
      rw [(bindValue_scalar_eq_null converted).mpr rfl] at unsettled
      simp [Truth.not, Truth.holds] at unsettled
    refine ⟨full, fun value inside => ?_⟩
    obtain ⟨bound, member, converted⟩ := exists_right_of_aligned aligned inside
    have given : value ≠ .null := fun null => full (null ▸ inside)
    exact (holds_notEqual converted given).trans (apart bound member)
  · rintro ⟨full, apart⟩ bound member
    obtain ⟨value, inside, converted⟩ := exists_left_of_aligned aligned member
    have given : value ≠ .null := fun null => full (null ▸ inside)
    exact (holds_notEqual converted given).symm.trans (apart value inside)

/-- Scalars are read back from the array that they make. -/
theorem arrayScalars_toValue (field : String) (values : List Scalar) :
    arrayScalars field (values.map Scalar.toValue) = .ok values := by
  -- The scalars are read one by one, each as itself.
  induction values with
  | nil => rfl
  | cons value rest ih =>
    rw [List.map_cons, arrayScalars, Scalar.scalar?_toValue, ih]
    rfl

/-- The filter that says one thing about one field. -/
def Filter.on (key : String) (value : Value) : Filter := ⟨[(key, value)], none⟩

/-- The filter that sets one operator on one field. -/
def Filter.operator (key operator : String) (value : Value) : Filter :=
  .on key (.map [(operator, value)])

/-- A filter on one field that is open matches the rows of which its conditions hold. -/
theorem EntitySchema.admits_on {key : String} {said : Value} {conditions : List Condition}
    (allowed : entity.allowedFilterField? key = some field)
    (read : Joinery.readField field said = .ok conditions) :
    entity.admits (some (.on key said)) relation row =
      conditions.all (entity.holds relation row) := by
  -- The filter has one entry, so its conditions are all that is read.
  simp only [admits, Filter.read, Filter.on, readConditions, allowed, read, Bind.bind, Except.bind,
    Pure.pure, Except.pure, List.append_nil]

/-- An operator sets one condition, with an operand that goes with it. -/
theorem readField_operator {key : String} {said : Value} {comparator : Comparator}
    {operand : Operand} (known : operator? key = some comparator)
    (read : readOperand field said = .ok operand)
    (fits : operand.isArray = comparator.takesArray) :
    readField field (.map [(key, said)]) = .ok [⟨field, comparator, operand⟩] := by
  -- An array where one value is wanted, or one value where an array is, would not be taken as it is.
  simp only [readField, readOperators, readOperator, known, read, Bind.bind, Except.bind]
  cases operand <;> cases takes : comparator.takesArray <;> simp_all [Operand.isArray] <;> rfl

/-- A single value counts as an array of one where an array is wanted. -/
theorem readField_wrapped {key : String} {comparator : Comparator} (value : Scalar)
    (known : operator? key = some comparator) (takes : comparator.takesArray = true) :
    readField field (.map [(key, value.toValue)]) =
      .ok [⟨field, comparator, .array [value]⟩] := by
  -- A scalar is read as itself, and the comparator makes an array of it.
  simp only [readField, readOperators, readOperator, known,
    readOperand_of_scalar? field value.scalar?_toValue, takes, Bind.bind, Except.bind]
  rfl

/-- An array of scalars is read as an operand. -/
theorem readOperand_array (field : String) (values : List Scalar) :
    readOperand field (.list (values.map Scalar.toValue)) = .ok (.array values) := by
  -- The items are scalars, so the array is read item by item.
  change (arrayScalars field _).map Operand.array = _
  rw [arrayScalars_toValue]
  rfl

/-- A scalar on its own is the value that the field has to equal. -/
theorem readField_scalar (field : String) (value : Scalar) :
    readField field value.toValue = .ok [⟨field, .equal, .scalar value⟩] := by
  cases value <;> rfl

/-- A scalar takes no level where it is shown. -/
theorem Scalar.checkShown_toValue (value : Scalar) (levels : Nat) :
    value.toValue.checkShown levels = value.toValue.checkShown 0 := by
  cases value <;> simp only [toValue, Value.checkShown]

/-- Whether a scalar can be bound does not depend on how deeply values may be nested. -/
theorem Scalar.coerce_eq_ok_iff {levels : Nat} {type : SemanticType} {value : Scalar}
    {bound : BoundValue} :
    coerce levels field type value.toValue = .ok bound ↔
      bindValue 0 field type value.toValue = .ok bound := by
  -- Only a text is made by showing the value.
  have same : value.toValue.convert levels type = value.toValue.convert 0 type := by
    cases type with
    | string =>
      have shown := value.checkShown_toValue levels
      cases value <;> simp only [toValue] at shown <;>
        simp only [toValue, Value.convert, Value.toText, shown]
    | integer | decimal | boolean | datetime => rfl
  rw [Joinery.coerce_eq_ok_iff, bindValue, bindValue, same]

/--
An array matches what its values match one by one, except for null.

What is in the array is what equals one of its values other than null; what is outside of it is what
differs from all of its values, and nothing at all when null is among them. A value without an array
matches like an array of that value alone.
-/
theorem EntitySchema.arrays_match {levels : Nat} {key : String}
    (allowed : entity.allowedFilterField? key = some field)
    (convertible : ∀ value ∈ values, ∃ bound,
      coerce levels field (entity.fieldType field) value.toValue = .ok bound)
    (before after : List Parameter) (relation : Relation) (row : Row) :
    let matched (filter : Filter) := entity.Matches filter before after relation row
    let array := Value.list (values.map Scalar.toValue)
    (matched (.operator key "$in" array) ↔
      ∃ value ∈ values, value ≠ .null ∧ matched (.operator key "$eq" value.toValue)) ∧
    (matched (.operator key "$nin" array) ↔
      .null ∉ values ∧ ∀ value ∈ values, matched (.operator key "$ne" value.toValue)) ∧
    ∀ value : Scalar, matched (.operator key "$in" value.toValue) ↔
      value ≠ .null ∧ matched (.on key value.toValue) := by
  intro matched array
  have convertible (value : Scalar) (member : value ∈ values) : ∃ bound,
      bindValue 0 field (entity.fieldType field) value.toValue = .ok bound :=
    (convertible value member).imp fun _ => Scalar.coerce_eq_ok_iff.mp
  -- Every filter in question sets one condition, so it admits the rows of which that one holds.
  have one {said : Value} {condition : Condition}
      (read : Joinery.readField field said = .ok [condition]) :
      matched (.on key said) ↔ entity.holds relation row condition = true := by
    refine (matches_iff_admits _ before after).trans ?_
    rw [admits_on allowed read, List.all_cons, List.all_nil, Bool.and_true]
  have equal (value : Scalar) : matched (.operator key "$eq" value.toValue) ↔
      entity.holds relation row ⟨field, .equal, .scalar value⟩ = true :=
    one (readField_operator rfl (readOperand_of_scalar? field value.scalar?_toValue) rfl)
  have notEqual (value : Scalar) : matched (.operator key "$ne" value.toValue) ↔
      entity.holds relation row ⟨field, .notEqual, .scalar value⟩ = true :=
    one (readField_operator rfl (readOperand_of_scalar? field value.scalar?_toValue) rfl)
  -- The three parts compare an array under its key with one operator, or with a single value.
  refine ⟨?_, ?_, fun value => ?_⟩
  · simp only [equal]
    exact (one (readField_operator rfl (readOperand_array field values) rfl)).trans
      (holds_isIn_iff convertible)
  · simp only [notEqual]
    exact (one (readField_operator rfl (readOperand_array field values) rfl)).trans
      (holds_notIn_iff convertible)
  · rw [one (readField_scalar field value)]
    exact (one (readField_wrapped value rfl rfl)).trans (holds_isIn_single value)

/-- The entity of the pets. -/
def petEntity : EntitySchema := petStep.entity

/-- The pets, one of which has no name. -/
def strayPets : Relation where
  columns := [⟨"id", .numeric⟩, ⟨"owner", .text⟩, ⟨"name", .text⟩, ⟨"age", .numeric⟩]
  rows := [[.integer 1, .text "A", .text "Ada", .integer 5], [.integer 4, .text "B", .null, .integer 1]]
  rectangular := by decide

/-- The names of some pets, with a repetition and without a name among them. -/
def petNames : List Scalar := [.text "Ada", .null, .text "Ada", .text "Bix"]

/-- Names can be converted, and an array of them matches the pet that has one of them. -/
theorem EntitySchema.arrays_match_pets :
    petEntity.allowedFilterField? "NAME" = some "name" ∧
    (∀ value ∈ petNames, ∃ bound,
      coerce 9 "name" (petEntity.fieldType "name") value.toValue = .ok bound) ∧
    ∃ row ∈ strayPets.rows, ∃ value ∈ petNames, value ≠ .null ∧
      petEntity.Matches (.operator "NAME" "$eq" value.toValue) [] [] strayPets row ∧
      petEntity.Matches (.operator "NAME" "$in" (.list (petNames.map Scalar.toValue))) [] []
        strayPets row := by
  -- The column is open, and each name is converted to itself.
  have allowed : petEntity.allowedFilterField? "NAME" = some "name" := by decide +kernel
  have convertible : ∀ value ∈ petNames, ∃ bound,
      coerce 9 "name" (petEntity.fieldType "name") value.toValue = .ok bound := by
    have checked : ∀ value ∈ petNames,
        (coerce 9 "name" (petEntity.fieldType "name") value.toValue).toOption.isSome = true := by
      decide +kernel
    exact fun value member => ⟨_, eq_ok_get (checked value member)⟩
  -- Ada has one of the names, so the array matches wherever the name alone does.
  obtain ⟨inArray, _⟩ := arrays_match allowed convertible [] [] strayPets
    [.integer 1, .text "A", .text "Ada", .integer 5]
  have equal : petEntity.Matches (.operator "NAME" "$eq" (.text "Ada")) [] [] strayPets
      [.integer 1, .text "A", .text "Ada", .integer 5] :=
    (matches_iff_admits _ [] []).mpr (by decide +kernel)
  have given : Scalar.text "Ada" ≠ .null := nofun
  exact ⟨allowed, convertible, _, List.mem_cons_self, .text "Ada", List.mem_cons_self, given, equal,
    inArray.mpr ⟨_, List.mem_cons_self, given, equal⟩⟩

/-- An array with null in it leaves out the pet without a name, and its opposite all pets that have one. -/
theorem EntitySchema.null_in_arrays_unmatched :
    let named : Row := [.integer 1, .text "A", .text "Ada", .integer 5]
    let nameless : Row := [.integer 4, .text "B", .null, .integer 1]
    let matched (filter : Filter) (row : Row) := petEntity.Matches filter [] [] strayPets row
    named ∈ strayPets.rows ∧ nameless ∈ strayPets.rows ∧
    petEntity.allowedFilterField? "name" = some "name" ∧
    coerce 9 "name" (petEntity.fieldType "name") .null = .ok .null ∧
    matched (.operator "name" "$eq" .null) nameless ∧ matched (.on "name" .null) nameless ∧
    ¬ matched (.operator "name" "$in" (.list [.null])) nameless ∧
    ¬ matched (.operator "name" "$in" .null) nameless ∧
    matched (.operator "name" "$ne" .null) named ∧
    ¬ matched (.operator "name" "$nin" (.list [.null])) named := by
  -- Matching is decided by the cells of two rows.
  simp only [matches_iff_admits]
  exact ⟨by decide, by decide, by decide +kernel, rfl, by decide +kernel⟩

end Joinery
