import Joinery.Proofs.Filter.Reading

/-! Filters that differ in their scalars only are planned to the same predicates. -/

namespace Joinery

/-- Whether a value is a scalar that is not null. -/
def Value.isGivenScalar (value : Value) : Bool :=
  value.scalar?.isSome && !value.isNull

/-- Whether a value is a scalar or an array of scalars. -/
def Value.isOperand : Value → Bool
  | .list items => items.all (·.scalar?.isSome)
  | value => value.scalar?.isSome

/-- Whether a key is an operator that goes with several values. -/
def isArrayOperator (key : String) : Bool :=
  (operator? key).any Comparator.takesArray

mutual

/-- Two values that differ at most in the scalars inside, where neither scalar is null. -/
inductive Value.SameShape : Value → Value → Prop where
  /-- They do not differ. -/
  | same (value : Value) : Value.SameShape value value
  /-- One scalar stands for another one. -/
  | scalar {first second : Value} (one : first.isGivenScalar = true)
    (other : second.isGivenScalar = true) : Value.SameShape first second
  /-- The items of a list differ so. -/
  | list {items others : List Value} (differ : List.Forall₂ Value.SameShape items others) :
    Value.SameShape (.list items) (.list others)
  /-- The values under the keys of a mapping differ so. -/
  | map {entries others : List (String × Value)}
    (differ : List.Forall₂ SameOperator entries others) :
    Value.SameShape (.map entries) (.map others)

/-- Two entries of a mapping: the key is the same, and the values differ at most in scalars. -/
inductive SameOperator : String × Value → String × Value → Prop where
  /-- The values are of one shape. -/
  | value (key : String) {first second : Value} (differ : Value.SameShape first second) :
    SameOperator (key, first) (key, second)
  /-- Behind an operator for several values, one operand stands for any other one. -/
  | operand {key : String} {first second : Value} (array : isArrayOperator key = true)
    (one : first.isOperand = true) (other : second.isOperand = true) :
    SameOperator (key, first) (key, second)

end

/-- Two filters that say the same of the same fields, but for the scalars in it. -/
structure Filter.SameShape (first second : Filter) : Prop where
  /-- The conditions are on the same keys and of one shape. -/
  conditions : List.Forall₂ (fun one other => one.1 = other.1 ∧ one.2.SameShape other.2)
    first.conditions second.conditions
  /-- The caps are the same. -/
  limit : second.limit = first.limit

/-- Two operands that are both arrays, or both scalars of which both or neither is null. -/
inductive Operand.SameShape : Operand → Operand → Prop where
  /-- Two scalars. -/
  | scalar {first second : Scalar} (null : second.toValue.isNull = first.toValue.isNull) :
    SameShape (.scalar first) (.scalar second)
  /-- Two arrays. -/
  | array (first second : List Scalar) : SameShape (.array first) (.array second)

/-- Two conditions on one field, with one comparator and operands of one shape. -/
structure Condition.SameShape (first second : Condition) : Prop where
  /-- They are on one field. -/
  field : second.field = first.field
  /-- They compare it in one way. -/
  comparator : second.comparator = first.comparator
  /-- The operands are of one shape. -/
  operand : first.operand.SameShape second.operand

/-- A condition is of its own shape. -/
theorem Condition.SameShape.refl (condition : Condition) : condition.SameShape condition := by
  -- An operand has the shape of itself, whether it is a scalar or an array.
  refine ⟨rfl, rfl, ?_⟩
  cases condition.operand with
  | scalar value => exact .scalar rfl
  | array values => exact .array values values

/-- The scalar that a value is has that value. -/
theorem Value.toValue_of_scalar? {value : Value} {found : Scalar}
    (scalar : value.scalar? = some found) : found.toValue = value := by
  cases value <;> cases scalar <;> rfl

/-- A scalar is read as an operand of its own. -/
theorem readOperand_of_scalar? (field : String) {value : Value} {found : Scalar}
    (scalar : value.scalar? = some found) : readOperand field value = .ok (.scalar found) := by
  simp only [readOperand, scalar]

/-- The operand of a given scalar is one that is not null. -/
theorem readOperand_of_isGivenScalar (field : String) {value : Value}
    (given : value.isGivenScalar = true) :
    ∃ found, readOperand field value = .ok (.scalar found) ∧ found.toValue.isNull = false := by
  -- A given value is a scalar, and it is not null.
  obtain ⟨some, filled⟩ := Bool.and_eq_true_iff.mp given
  obtain ⟨found, scalar⟩ := Option.isSome_iff_exists.mp some
  refine ⟨found, readOperand_of_scalar? field scalar, ?_⟩
  rw [Value.toValue_of_scalar? scalar]
  simpa using filled

variable {field key : String} {first second : Value}

/-- Values of one shape are read as operands of one shape. -/
theorem readOperand_shape {operand other : Operand} (same : first.SameShape second)
    (one : readOperand field first = .ok operand) (two : readOperand field second = .ok other) :
    operand.SameShape other := by
  -- A list is read as an array however long it is, and a mapping is never an operand.
  cases same with
  | same value =>
    cases one.symm.trans two
    cases operand with
    | scalar value => exact .scalar rfl
    | array values => exact .array values values
  | scalar given also =>
    obtain ⟨found, readOne, filled⟩ := readOperand_of_isGivenScalar field given
    obtain ⟨paired, readTwo, full⟩ := readOperand_of_isGivenScalar field also
    cases one.symm.trans readOne
    cases two.symm.trans readTwo
    exact .scalar (full.trans filled.symm)
  | list differ =>
    obtain ⟨values, _, rfl⟩ := map_eq_ok.mp one
    obtain ⟨others, _, rfl⟩ := map_eq_ok.mp two
    exact .array values others
  | map differ => contradiction

/-- Operands that are both arrays are of one shape. -/
theorem Operand.SameShape.of_isArray {one other : Operand} (first : one.isArray = true)
    (second : other.isArray = true) : one.SameShape other := by
  -- Arrays are of one shape whatever they hold.
  cases one with
  | scalar => contradiction
  | array values =>
    cases other with
    | scalar => contradiction
    | array others => exact .array values others

/-- Two entries of an operator object set conditions of one shape, or none. -/
theorem readOperator_shape {value other : Value} {found paired : Option Condition}
    (same : SameOperator (key, value) (key, other)) (one : readOperator field key value = .ok found)
    (two : readOperator field key other = .ok paired) :
    List.Forall₂ Condition.SameShape found.toList paired.toList := by
  -- A known operator fixes whether there is an array; a single value is null in both or in neither.
  cases known : operator? key with
  | none =>
    rw [readOperator, known] at one two
    cases one
    cases two
    exact .nil
  | some comparator =>
    obtain ⟨operand, placed, readOne, rfl, array, kept⟩ := readOperator_ok known one
    obtain ⟨operand', placed', readTwo, rfl, array', kept'⟩ := readOperator_ok known two
    refine .cons ⟨rfl, rfl, ?_⟩ .nil
    cases takes : comparator.takesArray with
    | true => exact .of_isArray (array.trans takes) (array'.trans takes)
    | false =>
      cases same with
      | value _ differ =>
        rw [kept takes, kept' takes]
        exact readOperand_shape differ readOne readTwo
      | operand goes => simp [isArrayOperator, known, takes] at goes

/-- Two operator objects of one shape set conditions of one shape. -/
theorem readOperators_shape {entries others : List (String × Value)}
    {conditions paired : List Condition} (same : List.Forall₂ SameOperator entries others)
    (one : readOperators field entries = .ok conditions)
    (two : readOperators field others = .ok paired) :
    List.Forall₂ Condition.SameShape conditions paired := by
  -- Operator by operator.
  induction same generalizing conditions paired with
  | nil =>
    cases one
    cases two
    exact .nil
  | @cons entry other rest more head _ ih =>
    obtain ⟨key, value⟩ := entry
    obtain ⟨key', value'⟩ := other
    obtain rfl : key' = key := by cases head <;> rfl
    obtain ⟨found, first, one⟩ := bind_eq_ok.mp one
    obtain ⟨found', first', two⟩ := bind_eq_ok.mp two
    obtain ⟨later, others, one⟩ := bind_eq_ok.mp one
    obtain ⟨later', others', two⟩ := bind_eq_ok.mp two
    cases one
    cases two
    exact List.rel_append (readOperator_shape head first first') (ih others others')

/-- Values of one shape set conditions of one shape on a field. -/
theorem readField_shape {conditions paired : List Condition} (same : first.SameShape second)
    (one : readField field first = .ok conditions) (two : readField field second = .ok paired) :
    List.Forall₂ Condition.SameShape conditions paired := by
  rcases readField_ok one with ⟨entries, rfl, one⟩ | ⟨found, readOne, rfl⟩ <;>
    rcases readField_ok two with ⟨others, rfl, two⟩ | ⟨paired, readTwo, rfl⟩
  · cases same with
    | same =>
      cases one.symm.trans two
      exact List.forall₂_same.mpr fun condition _ => .refl condition
    | scalar given => contradiction
    | map differ => exact readOperators_shape differ one two
  -- An operator object is not of the shape of anything else.
  · cases same <;> contradiction
  · cases same <;> contradiction
  · exact .cons ⟨rfl, rfl, readOperand_shape same readOne readTwo⟩ .nil

/-- Filters of one shape say things of one shape, and leave the same keys out. -/
theorem readConditions_shape {entity : EntitySchema} {entries others : List (String × Value)}
    {reading paired : Reading}
    (same : List.Forall₂ (fun one other => one.1 = other.1 ∧ one.2.SameShape other.2) entries others)
    (one : readConditions entity entries = .ok reading)
    (two : readConditions entity others = .ok paired) :
    List.Forall₂ Condition.SameShape reading.conditions paired.conditions ∧
      paired.rejected = reading.rejected := by
  -- The key alone decides whether an entry is read or left out.
  induction same generalizing reading paired with
  | nil =>
    cases one
    cases two
    exact ⟨.nil, rfl⟩
  | @cons entry other rest more head _ ih =>
    obtain ⟨key, value⟩ := entry
    obtain ⟨key', value'⟩ := other
    obtain ⟨rfl, differ⟩ : key = key' ∧ value.SameShape value' := head
    rw [readConditions] at one two
    cases allowed : entity.allowedFilterField? key with
    | none =>
      rw [allowed] at one two
      obtain ⟨later, others, one⟩ := bind_eq_ok.mp one
      obtain ⟨later', others', two⟩ := bind_eq_ok.mp two
      cases one
      cases two
      obtain ⟨conditions, rejected⟩ := ih others others'
      exact ⟨conditions, congrArg (key :: ·) rejected⟩
    -- Both readings look at the same key, and each goes on in its own way only behind it.
    | some field =>
      rw [allowed] at one two
      obtain ⟨found, first, one⟩ := bind_eq_ok.mp one
      obtain ⟨found', first', two⟩ := bind_eq_ok.mp two
      obtain ⟨later, others, one⟩ := bind_eq_ok.mp one
      obtain ⟨later', others', two⟩ := bind_eq_ok.mp two
      cases one
      cases two
      obtain ⟨conditions, rejected⟩ := ih others others'
      exact ⟨List.rel_append (readField_shape differ first first') conditions, rejected⟩

/-- A value is never converted to null unless it is null. -/
theorem bindValue_eq_null {levels : Nat} {type : SemanticType} {value : Value} {bound : BoundValue}
    (converted : bindValue levels field type value = .ok bound) :
    bound = .null ↔ value.isNull = true := by
  -- Every meaning wraps what it makes of a value that is not null.
  rw [bindValue] at converted
  split at converted
  · rename_i null
    cases converted
    exact iff_of_true rfl null
  · rename_i filled
    refine iff_of_false ?_ filled
    rintro rfl
    split at converted
    · rename_i found
      cases converted
      -- No conversion wraps a null.
      cases type <;> obtain ⟨_, _, wrapped⟩ := map_eq_ok.mp found <;> contradiction
    · contradiction

/-- What a parameter tells apart from its values: what they mean, and whether they are several. -/
def Parameter.slot (parameter : Parameter) : SemanticType × Bool :=
  (parameter.type, parameter.binding.isMany)

variable {entity : EntitySchema}

/-- Conditions of one shape bind several values or one, and null or another one, alike. -/
theorem bindOperand_shape {condition other : Condition} {binding paired : Binding}
    (same : condition.SameShape other) (one : bindOperand entity condition = .ok binding)
    (two : bindOperand entity other = .ok paired) :
    paired.isMany = binding.isMany ∧ (paired = .one .null ↔ binding = .one .null) := by
  -- A scalar binds null in both or in neither, and an array binds an array.
  obtain ⟨_, _, operand⟩ := condition
  obtain ⟨_, _, operand'⟩ := other
  obtain ⟨rfl, rfl, operands⟩ := same
  cases operands with
  | scalar null =>
    obtain ⟨bound, converted, rfl⟩ := map_eq_ok.mp one
    obtain ⟨bound', converted', rfl⟩ := map_eq_ok.mp two
    refine ⟨rfl, ?_⟩
    rw [Binding.one.injEq, Binding.one.injEq, bindValue_eq_null converted, bindValue_eq_null converted',
      null]
  | array values others =>
    obtain ⟨bound, _, rfl⟩ := map_eq_ok.mp one
    obtain ⟨bound', _, rfl⟩ := map_eq_ok.mp two
    exact ⟨rfl, iff_of_false nofun nofun⟩

/-- A condition that binds something else than null takes a place. -/
theorem placeCondition_of_ne_null {place : Nat} {condition : Condition} {binding : Binding}
    (bound : bindOperand entity condition = .ok binding) (given : binding ≠ .one .null) :
    placeCondition entity place condition = .ok (.compare condition.field condition.comparator place,
      [⟨binding, entity.fieldType condition.field⟩]) := by
  -- Only a null that stands alone is tested without a place.
  rw [placeCondition, bound]
  cases binding with
  | many values => rfl
  | one value =>
    cases value with
    | null => contradiction
    | _ => rfl

/-- Conditions of one shape become one predicate, with a place for the same kind of value. -/
theorem placeCondition_shape {place : Nat} {condition other : Condition}
    {placed paired : Predicate × List Parameter} (same : condition.SameShape other)
    (one : placeCondition entity place condition = .ok placed)
    (two : placeCondition entity place other = .ok paired) :
    paired.1 = placed.1 ∧ paired.2.map Parameter.slot = placed.2.map Parameter.slot := by
  obtain ⟨binding, bound, _⟩ := bind_eq_ok.mp one
  obtain ⟨binding', bound', _⟩ := bind_eq_ok.mp two
  obtain ⟨many, null⟩ := bindOperand_shape same bound bound'
  by_cases missing : binding = .one .null
  · -- Null is tested without a place, by the comparator alone.
    rw [placeCondition, bound, missing] at one
    rw [placeCondition, bound', null.mpr missing, same.field, same.comparator] at two
    cases one.symm.trans two
    exact ⟨rfl, rfl⟩
  · rw [placeCondition_of_ne_null bound missing] at one
    rw [placeCondition_of_ne_null bound' (mt null.mp missing), same.field, same.comparator] at two
    cases one
    cases two
    refine ⟨rfl, ?_⟩
    simp only [List.map_cons, List.map_nil, Parameter.slot, many]

/-- Conditions of one shape, one after the other, become the same predicates. -/
theorem placeConditions_shape {place : Nat} {conditions others : List Condition}
    {placed paired : List Predicate × List Parameter}
    (same : List.Forall₂ Condition.SameShape conditions others)
    (one : placeConditions entity place conditions = .ok placed)
    (two : placeConditions entity place others = .ok paired) :
    paired.1 = placed.1 ∧ paired.2.map Parameter.slot = placed.2.map Parameter.slot := by
  -- Equal slots are equally many, so that the next place is the same.
  induction same generalizing place placed paired with
  | nil =>
    cases one
    cases two
    exact ⟨rfl, rfl⟩
  | cons head _ ih =>
    obtain ⟨first, own, one⟩ := bind_eq_ok.mp one
    obtain ⟨first', own', two⟩ := bind_eq_ok.mp two
    obtain ⟨later, rest, one⟩ := bind_eq_ok.mp one
    obtain ⟨later', rest', two⟩ := bind_eq_ok.mp two
    cases one
    cases two
    obtain ⟨predicate, slots⟩ := placeCondition_shape head own own'
    have size : first'.2.length = first.2.length := by
      simpa only [List.length_map] using congrArg List.length slots
    rw [size] at rest'
    obtain ⟨predicates, more⟩ := ih rest rest'
    exact ⟨by rw [predicate, predicates], by rw [List.map_append, List.map_append, slots, more]⟩

/-- Filters of one shape are planned to the same predicates and leave the same keys out. -/
theorem planFilter_shape {place : Nat} {filter other : Option Filter} {planned paired : PlannedFilter}
    (same : Option.Rel Filter.SameShape filter other)
    (one : planFilter entity place filter = .ok planned)
    (two : planFilter entity place other = .ok paired) :
    paired.predicates = planned.predicates ∧ paired.rejected = planned.rejected ∧
      paired.parameters.map Parameter.slot = planned.parameters.map Parameter.slot := by
  -- Both filters are read, and their conditions placed, in the same way.
  obtain ⟨reading, read, one⟩ := bind_eq_ok.mp one
  obtain ⟨reading', read', two⟩ := bind_eq_ok.mp two
  obtain ⟨placed, first, one⟩ := bind_eq_ok.mp one
  obtain ⟨placed', second, two⟩ := bind_eq_ok.mp two
  cases one
  cases two
  -- No filter has no conditions, and two filters are read entry by entry.
  have shapes : List.Forall₂ Condition.SameShape reading.conditions reading'.conditions ∧
      reading'.rejected = reading.rejected := by
    have read := mapError_eq_ok.mp read
    have read' := mapError_eq_ok.mp read'
    cases same with
    | none =>
      cases read
      cases read'
      exact ⟨.nil, rfl⟩
    | some shape => exact readConditions_shape shape.conditions read read'
  obtain ⟨predicates, slots⟩ :=
    placeConditions_shape shapes.1 (mapError_eq_ok.mp first) (mapError_eq_ok.mp second)
  exact ⟨predicates, by rw [shapes.2], slots⟩

end Joinery
