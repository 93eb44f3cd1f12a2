import Joinery.Proofs.Filter.Pruning
import Joinery.Proofs.Filter.Shape

/-!
A filter is refused for what stands under its open keys, and otherwise sets the conditions written there.

What stands elsewhere is not looked at.
-/

namespace Joinery

/-- The values that a comparator does not go with: no operands, and arrays where it takes one value. -/
def Comparator.Rejects (comparator : Comparator) (value : Value) : Prop :=
  value.isOperand = false ∨ comparator.takesArray = false ∧ ∃ items, value = .list items

/-- An entry of a filter that an entity refuses: its key is open, and its value cannot be read. -/
inductive EntitySchema.Refuses (entity : EntitySchema) : String × Value → Prop where
  /-- An array stands there, or something else that is neither a scalar nor an operator object. -/
  | plain {key : String} {value : Value} (opened : entity.opens key = true)
    (noScalar : value.scalar? = none) (noObject : ∀ entries, value ≠ .map entries) :
    Refuses entity (key, value)
  /-- A known operator stands there with a value that it does not go with. -/
  | operator {key operator : String} {entries : List (String × Value)} {value : Value}
    {comparator : Comparator} (opened : entity.opens key = true)
    (member : (operator, value) ∈ entries) (known : operator? operator = some comparator)
    (unfit : comparator.Rejects value) : Refuses entity (key, .map entries)

/-- The operand that a scalar or an array of scalars is. -/
def Value.operand : Value → Operand
  | .list items => .array (items.filterMap Value.scalar?)
  | value => .scalar (value.scalar?.getD .null)

/-- An operand as a comparator goes with it: one value is an array of itself where it goes with several. -/
def Comparator.fit (comparator : Comparator) : Operand → Operand
  | .scalar value => if comparator.takesArray then .array [value] else .scalar value
  | operand => operand

/-- The condition of an operator; unknown ones say nothing. -/
def conditionOf? (field : String) (entry : String × Value) : Option Condition :=
  (operator? entry.1).map fun comparator =>
    ⟨field, comparator, comparator.fit entry.2.operand⟩

/-- The conditions that a value sets on a field: one for each known operator, or that it equals a scalar. -/
def Value.conditionsOn (field : String) : Value → List Condition
  | .map entries => entries.filterMap (conditionOf? field)
  | value => [⟨field, .equal, value.operand⟩]

/-- The conditions that an entry of a filter sets; none unless its key is open. -/
def EntitySchema.conditionsOf (entity : EntitySchema) (entry : String × Value) : List Condition :=
  match entity.allowedFilterField? entry.1 with
  | none => []
  | some field => entry.2.conditionsOn field

/-- Two operators that say the same when they are known. -/
def SameKnown (one other : String × Value) : Prop :=
  one.1 = other.1 ∧ ((operator? one.1).isSome = true → one.2 = other.2)

/-- Two entries of a filter that differ at most where an entity does not look. -/
inductive EntitySchema.SameOpened (entity : EntitySchema) : String × Value → String × Value → Prop where
  /-- They do not differ. -/
  | same (entry : String × Value) : SameOpened entity entry entry
  /-- The key is not open, so that any value stands for any other one. -/
  | closed {key : String} (shut : entity.opens key = false) (value other : Value) :
    SameOpened entity (key, value) (key, other)
  /-- Operator objects differ in what stands behind operators that are not known. -/
  | operators (key : String) {entries others : List (String × Value)}
    (differ : List.Forall₂ SameKnown entries others) :
    SameOpened entity (key, .map entries) (key, .map others)

variable {field key : String} {value : Value} {comparator : Comparator}

/-- The scalars of an array are read when it holds nothing else. -/
theorem arrayScalars_eq_ok (field : String) {items : List Value}
    (fit : ∀ item ∈ items, item.scalar?.isSome = true) :
    arrayScalars field items = .ok (items.filterMap Value.scalar?) := by
  -- Each item is a scalar and is read as such.
  induction items with
  | nil => rfl
  | cons item rest ih =>
    obtain ⟨own, later⟩ := List.forall_mem_cons.mp fit
    obtain ⟨scalar, found⟩ := Option.isSome_iff_exists.mp own
    rw [arrayScalars, found, List.filterMap_cons_some found]
    simp only [ih later, Except.map]

/-- An array with anything else is not read. -/
theorem arrayScalars_error (field : String) {items : List Value} {item : Value}
    (member : item ∈ items) (unfit : item.scalar? = none) : ∃ rejection, arrayScalars field items = .error rejection := by
  induction items with
  | nil => contradiction
  | cons first rest ih =>
    rw [arrayScalars]
    -- The first item is refused itself, or one of those behind it is.
    cases found : first.scalar? with
    | none => exact ⟨_, rfl⟩
    | some scalar =>
      rcases List.mem_cons.mp member with rfl | later
      · rw [found] at unfit
        contradiction
      · obtain ⟨rejection, refused⟩ := ih later
        exact ⟨rejection, by simp only [refused, Except.map]⟩

/-- A scalar or an array of scalars is read as the operand that it is. -/
theorem readOperand_eq_ok (fit : value.isOperand = true) :
    readOperand field value = .ok value.operand := by
  -- An array is an operand for its items, and other operands are scalars themselves.
  cases value with
  | list items =>
    have scalars := arrayScalars_eq_ok field (List.all_eq_true.mp fit)
    simp only [readOperand, Value.scalar?, scalars, Except.map, Value.operand]
  | null | bool | int | float | text => rfl
  | decimal | moment | date | map => contradiction

/-- Anything else is not read. -/
theorem readOperand_error (field : String) (unfit : value.isOperand = false) :
    ∃ rejection, readOperand field value = .error rejection := by
  -- An array is refused at an item that is no scalar, and everything else as a whole.
  cases value with
  | list items =>
    obtain ⟨item, member, missing⟩ := List.all_eq_false.mp unfit
    obtain ⟨rejection, refused⟩ :=
      arrayScalars_error field member (Option.not_isSome_iff_eq_none.mp missing)
    exact ⟨rejection, by simp only [readOperand, Value.scalar?, refused, Except.map]⟩
  | null | bool | int | float | text => contradiction
  | decimal | moment | date | map => exact ⟨_, rfl⟩

/-- What is an operand and no array is a scalar. -/
theorem Value.exists_scalar (fit : value.isOperand = true) (single : ∀ items, value ≠ .list items) :
    ∃ scalar, value.scalar? = some scalar ∧ value.operand = .scalar scalar := by
  -- Apart from arrays, the operands are the scalars.
  cases value with
  | list items => exact absurd rfl (single items)
  | null | bool | int | float | text => exact ⟨_, rfl, rfl⟩
  | decimal | moment | date | map => contradiction

/-- An operator is read as its condition, unless it is known and does not go with the value. -/
theorem readOperator_eq_ok
    (fit : ∀ comparator, operator? key = some comparator → ¬ comparator.Rejects value) :
    readOperator field key value = .ok (conditionOf? field (key, value)) := by
  simp only [readOperator, conditionOf?]
  cases known : operator? key with
  | none => rfl
  | some comparator =>
    obtain ⟨operand, noArray⟩ := not_or.mp (fit comparator known)
    rw [Bool.not_eq_false] at operand
    simp only [readOperand_eq_ok operand]
    -- One value may become an array; an array goes only where several values do.
    by_cases array : ∃ items, value = .list items
    · obtain ⟨items, rfl⟩ := array
      have takes : comparator.takesArray = true := by
        rw [← Bool.not_eq_false]
        exact fun single => noArray ⟨single, items, rfl⟩
      rw [takes]
      rfl
    · obtain ⟨scalar, _, same⟩ := Value.exists_scalar operand fun items h => array ⟨items, h⟩
      rw [same, Option.map_some, Comparator.fit]
      cases comparator.takesArray <;> rfl

/-- A known operator is not read with a value that it does not go with. -/
theorem readOperator_error (field : String) (known : operator? key = some comparator)
    (unfit : comparator.Rejects value) :
    ∃ rejection, readOperator field key value = .error rejection := by
  -- Either the value is no operand, or it is an array where the comparator takes a single value.
  simp only [readOperator, known]
  cases fit : value.isOperand with
  | false =>
    obtain ⟨rejection, refused⟩ := readOperand_error field fit
    exact ⟨rejection, by rw [refused]; rfl⟩
  | true =>
    rcases unfit with unfit | ⟨single, items, rfl⟩
    · rw [fit] at unfit
      contradiction
    · exact ⟨_, by rw [readOperand_eq_ok fit, single]; rfl⟩

/-- An operator object is read as the conditions of its operators. -/
theorem readOperators_eq_ok {entries : List (String × Value)}
    (fit : ∀ entry ∈ entries, ∀ comparator, operator? entry.1 = some comparator →
      ¬ comparator.Rejects entry.2) :
    readOperators field entries = .ok (entries.filterMap (conditionOf? field)) := by
  -- Operators that are not known read as no condition, and the others as their own.
  refine readOperators_ok_iff.mpr ⟨entries.map (conditionOf? field), ?_, ?_⟩
  · rw [List.forall₂_map_right_iff, List.forall₂_same]
    exact fun entry member => readOperator_eq_ok (fit entry member)
  · rw [List.flatMap_map, List.filterMap_eq_flatMap_toList]

/-- An operator object is not read when one of its operators is not. -/
theorem readOperators_error {entries : List (String × Value)} {entry : String × Value}
    (member : entry ∈ entries) (known : operator? entry.1 = some comparator)
    (unfit : comparator.Rejects entry.2) :
    ∃ rejection, readOperators field entries = .error rejection := by
  -- Were the object read, so would be the operator.
  cases read : readOperators field entries with
  | error rejection => exact ⟨rejection, rfl⟩
  | ok conditions =>
    obtain ⟨found, aligned, _⟩ := readOperators_ok_iff.mp read
    obtain ⟨one, _, own⟩ := exists_right_of_aligned aligned member
    obtain ⟨rejection, refused⟩ := readOperator_error field known unfit
    rw [refused] at own
    contradiction

/-- A scalar is read as what the field has to equal. -/
theorem readField_of_scalar? (given : value.scalar? ≠ none) :
    readField field value = .ok (value.conditionsOn field) := by
  -- A scalar is neither an operator object nor an array.
  cases value with
  | null | bool | int | float | text => rfl
  | decimal | moment | date | list | map => exact absurd rfl given

/-- What is neither a scalar nor an operator object is not read. -/
theorem readField_error (noScalar : value.scalar? = none) (noObject : ∀ entries, value ≠ .map entries) :
    ∃ rejection, readField field value = .error rejection := by
  rw [readField.eq_2 field value noObject]
  cases fit : value.isOperand with
  | false =>
    obtain ⟨rejection, refused⟩ := readOperand_error field fit
    exact ⟨rejection, by rw [refused]; rfl⟩
  | true =>
    -- An operand that is no scalar is an array.
    rw [readOperand_eq_ok fit]
    cases value with
    | list items => exact ⟨_, rfl⟩
    | null | bool | int | float | text | decimal | moment | date | map => contradiction

variable {entity : EntitySchema} {entry : String × Value}

/-- An entry that is not refused is read as the conditions that it sets. -/
theorem EntitySchema.readEntry_eq_ok (fit : ¬ entity.Refuses entry) :
    entity.readEntry entry = .ok (entity.conditionsOf entry) := by
  -- A closed key sets nothing; an open one refuses what is neither a scalar nor an operator object.
  obtain ⟨key, value⟩ := entry
  simp only [readEntry, conditionsOf]
  cases allowed : entity.allowedFilterField? key with
  | none => rfl
  | some field =>
    have opened := opens_of_some allowed
    by_cases object : ∃ entries, value = .map entries
    · obtain ⟨entries, rfl⟩ := object
      exact readOperators_eq_ok fun entry member comparator known unfit =>
        fit (.operator opened member known unfit)
    · refine readField_of_scalar? fun missing => fit (.plain opened missing ?_)
      exact fun entries same => object ⟨entries, same⟩

/-- An entry that is refused is not read. -/
theorem EntitySchema.Refuses.readEntry_error (refused : entity.Refuses entry) :
    ∃ rejection, entity.readEntry entry = .error rejection := by
  -- What is refused stands under an open key, so the entry is read to the point of its fault.
  cases refused with
  | plain opened noScalar noObject =>
    obtain ⟨field, allowed⟩ := Option.isSome_iff_exists.mp opened
    simp only [readEntry, allowed]
    exact readField_error noScalar noObject
  | operator opened member known unfit =>
    obtain ⟨field, allowed⟩ := Option.isSome_iff_exists.mp opened
    simp only [readEntry, allowed]
    exact readOperators_error member known unfit

variable {entries others : List (String × Value)}

/-- Entries of which none is refused are read as the conditions that they set, and the keys that are not open. -/
theorem readConditions_eq_ok (fit : ∀ entry ∈ entries, ¬ entity.Refuses entry) :
    readConditions entity entries = .ok ⟨entries.flatMap entity.conditionsOf,
      (entries.map Prod.fst).filter fun key => !entity.opens key⟩ := by
  -- Entry by entry the conditions are known, and the keys that are left out are told by the entity alone.
  have aligned : List.Forall₂ (fun entry own => entity.readEntry entry = .ok own) entries
      (entries.map entity.conditionsOf) := by
    rw [List.forall₂_map_right_iff, List.forall₂_same]
    exact fun entry member => EntitySchema.readEntry_eq_ok (fit entry member)
  obtain ⟨rejected, read⟩ := readConditions_ok_iff.mpr ⟨_, aligned, rfl⟩
  have left : rejected = (entries.map Prod.fst).filter fun key => !entity.opens key := by
    refine (readConditions_rejected read).trans ?_
    rw [← List.filterMap_eq_filter, List.filterMap_map]
    refine List.filterMap_congr fun (key, _) _ => ?_
    simp only [Function.comp, Option.guard]
    cases entity.opens key <;> rfl
  rw [read, left, List.flatMap_def]

/-- Entries are not read exactly when one of them is refused. -/
theorem readConditions_error_iff :
    (∃ rejection, readConditions entity entries = .error rejection) ↔
      ∃ entry ∈ entries, entity.Refuses entry := by
  -- If none were refused they would all be read, and one that is refused cannot be.
  constructor
  · rintro ⟨rejection, refused⟩
    by_contra fit
    rw [readConditions_eq_ok fun entry member own => fit ⟨entry, member, own⟩] at refused
    contradiction
  · rintro ⟨entry, member, own⟩
    cases read : readConditions entity entries with
    | error rejection => exact ⟨rejection, rfl⟩
    | ok reading =>
      obtain ⟨found, aligned, _⟩ := readConditions_ok_iff.mp ⟨reading.rejected, read⟩
      obtain ⟨conditions, _, first⟩ := exists_right_of_aligned aligned member
      obtain ⟨rejection, refused⟩ := own.readEntry_error
      rw [refused] at first
      contradiction

/-- Operators that say the same when they are known are read alike. -/
theorem readOperators_congr (same : List.Forall₂ SameKnown entries others) :
    readOperators field entries = readOperators field others := by
  -- An unknown operator is passed over, so its value does not matter.
  induction same with
  | nil => rfl
  | @cons one other _ _ known _ ih =>
    obtain ⟨key, value⟩ := one
    obtain ⟨_, value'⟩ := other
    obtain ⟨rfl, equal⟩ : key = _ ∧ ((operator? key).isSome = true → value = value') := known
    have head : readOperator field key value = readOperator field key value' := by
      cases found : operator? key with
      | none => simp only [readOperator, found]
      | some comparator => rw [equal (by rw [found]; rfl)]
    rw [readOperators, readOperators, head, ih]

/-- Entries that differ at most where the entity does not look have one key, and are read alike. -/
theorem EntitySchema.SameOpened.readEntry {one other : String × Value}
    (same : entity.SameOpened one other) :
    one.1 = other.1 ∧ entity.readEntry one = entity.readEntry other := by
  -- The entries differ under a closed key or in the values of unknown operators.
  cases same with
  | same => exact ⟨rfl, rfl⟩
  | closed shut =>
    have closed := Option.not_isSome_iff_eq_none.mp (Bool.not_eq_true _ ▸ shut)
    exact ⟨rfl, by simp only [EntitySchema.readEntry, closed]⟩
  | operators key differ =>
    refine ⟨rfl, ?_⟩
    simp only [EntitySchema.readEntry]
    cases entity.allowedFilterField? key with
    | none => rfl
    | some field => exact readOperators_congr differ

/-- Filters that differ at most where the entity does not look are read alike. -/
theorem readConditions_congr (same : List.Forall₂ entity.SameOpened entries others) :
    readConditions entity entries = readConditions entity others := by
  -- Entry by entry the same is read, or the same keys are left out.
  induction same with
  | nil => rfl
  | @cons one other _ _ head _ ih =>
    obtain ⟨key, value⟩ := one
    obtain ⟨_, value'⟩ := other
    obtain ⟨rfl, alike⟩ : key = _ ∧ _ := head.readEntry
    simp only [EntitySchema.readEntry] at alike
    rw [readConditions, readConditions, ih]
    cases allowed : entity.allowedFilterField? key with
    | none => rfl
    | some field =>
      rw [allowed] at alike
      simp only [alike]

/-- The field of a key is the first open one of its name, letter case aside. -/
theorem EntitySchema.allowedFilterField?_eq_some_iff :
    entity.allowedFilterField? key = some field ↔
      ∃ before after, entity.allowedFilterFields = before ++ field :: after ∧
        lowered field = lowered key ∧ ∀ other ∈ before, lowered other ≠ lowered key := by
  -- The key is looked up among the open fields, and the first that has its letters is found.
  rw [allowedFilterField?, List.find?_eq_some_iff_append]
  simp only [sameName, beq_iff_eq, Bool.not_eq_true', beq_eq_false_iff_ne]
  constructor
  · rintro ⟨same, before, after, split, differ⟩
    exact ⟨before, after, split, same, differ⟩
  · rintro ⟨before, after, split, same, differ⟩
    exact ⟨same, before, after, split, differ⟩

end Joinery
