import Joinery.Proofs.Filter.KeyOrder
import Joinery.Proofs.Text.LetterCase
import Joinery.Query.Fault

/-! Filters whose keys and operators are spelled in other letters say the same. -/

namespace Joinery

/-- Two causes of a refusal that differ in the letters of what the caller spelled. -/
inductive Rejection.Respelled : Rejection → Rejection → Prop where
  /-- They do not differ. -/
  | same (cause : Rejection) : Rejection.Respelled cause cause
  /-- An unknown name is spelled in other letters. -/
  | unknownEntity {name other : String} (letters : SameLetters name other) :
    Rejection.Respelled (.unknownEntity name) (.unknownEntity other)
  /-- The key of an operator is. -/
  | arrayNotAccepted (field : String) {key other : String} (letters : SameLetters key other) :
    Rejection.Respelled (.arrayNotAccepted field key) (.arrayNotAccepted field other)

/-- Two faults in planning that differ in such letters. -/
inductive PlanFault.Respelled : PlanFault → PlanFault → Prop where
  /-- They do not differ. -/
  | same (fault : PlanFault) : PlanFault.Respelled fault fault
  /-- The query is refused for causes that differ so. -/
  | rejected {cause other : Rejection} (causes : cause.Respelled other) :
    PlanFault.Respelled (.rejected cause) (.rejected other)

/-- Two values whose operators are spelled in other letters. -/
inductive Value.Respelled : Value → Value → Prop where
  /-- They do not differ. -/
  | same (value : Value) : Value.Respelled value value
  /-- The keys of an operator object are spelled in other letters. -/
  | operators {entries others : List (String × Value)}
    (keys : List.Forall₂ (fun entry other => SameLetters entry.1 other.1 ∧ other.2 = entry.2)
      entries others) : Value.Respelled (.map entries) (.map others)

/-- Two lists of entries whose keys and operators are spelled in other letters. -/
def RespelledKeys (entries others : List (String × Value)) : Prop :=
  List.Forall₂ (fun entry other => SameLetters entry.1 other.1 ∧ entry.2.Respelled other.2)
    entries others

/-- Two documents whose keys and operators are spelled in other letters. -/
inductive Value.RespelledDocument : Value → Value → Prop where
  /-- They do not differ. -/
  | same (document : Value) : Value.RespelledDocument document document
  /-- The keys are spelled in other letters, and the operators under them. -/
  | keys {entries others : List (String × Value)} (keys : RespelledKeys entries others) :
    Value.RespelledDocument (.map entries) (.map others)

/-- Two filters whose keys and operators are spelled in other letters. -/
structure Filter.Respelled (filter other : Filter) : Prop where
  /-- The same is said about the same fields. -/
  conditions : RespelledKeys filter.conditions other.conditions
  /-- The caps are the same. -/
  limit : other.limit = filter.limit

/-- Nothing is respelled where nothing differs. -/
theorem RespelledKeys.refl (entries : List (String × Value)) : RespelledKeys entries entries :=
  List.forall₂_same.mpr fun _ _ => ⟨.refl _, .same _⟩

variable {field : String} {entity : EntitySchema} {entries others : List (String × Value)}

/-- A key for the cap is one in any letters. -/
theorem SameLetters.isLimitKey {key other : String} (letters : SameLetters key other) :
    isLimitKey other = isLimitKey key := by
  rw [Joinery.isLimitKey, Joinery.isLimitKey, letters.lowered]

/-- An operator is the same one in any letters. -/
theorem SameLetters.operator? {key other : String} (letters : SameLetters key other) :
    operator? other = operator? key := by
  rw [Joinery.operator?, Joinery.operator?, letters.lowered]

/-- A field is the same one in any letters. -/
theorem SameLetters.allowedFilterField? {key other : String} (letters : SameLetters key other)
    (entity : EntitySchema) : entity.allowedFilterField? other = entity.allowedFilterField? key := by
  simp only [EntitySchema.allowedFilterField?, sameName, letters.lowered]

/-- An operator says the same of a value in other letters, or is refused alike. -/
theorem readOperator_respelled {key other : String} (letters : SameLetters key other)
    (value : Value) : LikeOutcome Rejection.Respelled Eq (readOperator field key value)
      (readOperator field other value) := by
  rw [readOperator, readOperator, letters.operator?]
  cases operator? key with
  | none => exact .success rfl
  | some comparator =>
    refine (LikeOutcome.refl .same (fun _ => rfl) _).bind fun operand _ same => ?_
    subst same
    -- Only an array where one value is wanted is refused with the key.
    cases operand <;> cases comparator.takesArray <;>
      first | exact .success rfl | exact .fault (.arrayNotAccepted field letters)

/-- So do the operators of one field. -/
theorem readOperators_respelled
    (keys : List.Forall₂ (fun entry other : String × Value =>
      SameLetters entry.1 other.1 ∧ other.2 = entry.2) entries others) :
    LikeOutcome Rejection.Respelled Eq (readOperators field entries) (readOperators field others) := by
  -- The first operator that is refused is refused in both spellings.
  induction keys with
  | nil => exact .success rfl
  | @cons entry other _ _ head _ ih =>
    obtain ⟨key, value⟩ := entry
    obtain ⟨key', value'⟩ := other
    obtain ⟨letters, rfl⟩ : SameLetters key key' ∧ value' = value := head
    refine (readOperator_respelled letters value').bind fun first _ same => ?_
    exact ih.bind fun later _ sameLater => .success (by rw [same, sameLater])

/-- A field has the same conditions in other letters, or is refused alike. -/
theorem readField_respelled {value other : Value} (respelled : value.Respelled other) :
    LikeOutcome Rejection.Respelled Eq (readField field value) (readField field other) := by
  -- Only operators are written in letters.
  cases respelled with
  | same => exact .refl .same (fun _ => rfl) _
  | operators keys => exact readOperators_respelled keys

/-- Two readings with the same conditions that spell what they leave out in other letters. -/
structure Reading.Respelled (reading other : Reading) : Prop where
  /-- The same conditions are set. -/
  conditions : other.conditions = reading.conditions
  /-- The same keys are left out, in their own spelling. -/
  rejected : List.Forall₂ SameLetters reading.rejected other.rejected

/-- A filter is read to the same conditions, and what it leaves out is spelled in other letters. -/
theorem readConditions_respelled (keys : RespelledKeys entries others) :
    LikeOutcome Rejection.Respelled Reading.Respelled (readConditions entity entries)
      (readConditions entity others) := by
  -- Entry by entry the same field is found, or none.
  induction keys with
  | nil => exact .success ⟨rfl, .nil⟩
  | @cons entry other _ _ head _ ih =>
    obtain ⟨key, value⟩ := entry
    obtain ⟨key', value'⟩ := other
    obtain ⟨letters, respelled⟩ : SameLetters key key' ∧ value.Respelled value' := head
    rw [readConditions, readConditions, letters.allowedFilterField?]
    cases entity.allowedFilterField? key with
    | none =>
      exact ih.bind fun _ _ later => .success ⟨later.conditions, .cons letters later.rejected⟩
    | some field =>
      refine (readField_respelled respelled).bind fun first _ same => ?_
      refine ih.bind fun rest _ later => .success ⟨?_, later.rejected⟩
      dsimp only
      rw [same, later.conditions]

/-- Two planned filters with the same predicates that spell what they leave out in other letters. -/
structure PlannedFilter.Respelled (planned other : PlannedFilter) : Prop where
  /-- The predicates are the same. -/
  predicates : other.predicates = planned.predicates
  /-- The same is bound to their places. -/
  parameters : other.parameters = planned.parameters
  /-- The same fields are left out, in their own spelling. -/
  rejected : List.Forall₂ SameLetters planned.rejected other.rejected

/-- A filter is planned to the same predicates, and what it leaves out is spelled in other letters. -/
theorem planFilter_respelled {filter other : Option Filter}
    (respelled : Option.Rel Filter.Respelled filter other) (place : Nat) :
    LikeOutcome PlanFault.Respelled PlannedFilter.Respelled (planFilter entity place filter)
      (planFilter entity place other) := by
  have read : LikeOutcome Rejection.Respelled Reading.Respelled (Filter.read entity filter)
      (Filter.read entity other) := by
    cases respelled with
    | none => exact .success ⟨rfl, .nil⟩
    | some same => exact readConditions_respelled same.conditions
  refine (read.mapError fun _ _ causes => PlanFault.Respelled.rejected causes).bind
    fun reading changed alike => ?_
  -- The same conditions are placed, and what cannot be converted is told by its declared field.
  rw [alike.conditions]
  refine (LikeOutcome.refl PlanFault.Respelled.same (fun _ => rfl) _).bind fun placed _ same => ?_
  subst same
  refine .success ⟨rfl, rfl, List.forall₂_map_left_iff.mpr (List.forall₂_map_right_iff.mpr ?_)⟩
  exact alike.rejected.imp fun _ _ letters => (SameLetters.refl _).append letters

/-- The caps of respelled entries are the same. -/
theorem RespelledKeys.limitOf (keys : RespelledKeys entries others) :
    limitOf others = limitOf entries := by
  -- A cap is read off its key, whose letters do not count, and off a value that is no operator object.
  have caps : others.filterMap capOf = entries.filterMap capOf := by
    refine filterMap_of_aligned (fun entry other head => ?_) keys
    obtain ⟨key, value⟩ := entry
    obtain ⟨key', value'⟩ := other
    obtain ⟨letters, respelled⟩ : SameLetters key key' ∧ value.Respelled value' := head
    cases respelled with
    | same => simp only [capOf, letters.isLimitKey]
    | operators => rfl
  exact congrArg List.getLast? caps

/-- The filters of respelled documents are respelled, or none is a filter. -/
theorem Value.RespelledDocument.filters {document other : Value}
    (respelled : document.RespelledDocument other) :
    SameOutcome (Option.Rel Filter.Respelled) (Filter.ofValue document) (Filter.ofValue other) := by
  -- The entries that are no caps are respelled one by one.
  cases respelled with
  | same => exact Filter.ofValue_refl (fun _ => ⟨.refl _, rfl⟩) document
  | keys keys =>
    refine .success (.some ⟨List.rel_filter (fun entry other head => ?_) keys, keys.limitOf⟩)
    dsimp only
    rw [head.1.isLimitKey]

/-- A filter says nothing in other letters when it says nothing in these. -/
theorem Filter.Respelled.isEmpty {filter other : Filter} (respelled : filter.Respelled other) :
    other.isEmpty = filter.isEmpty :=
  Filter.isEmpty_congr (List.Forall₂.length_eq respelled.conditions).symm

end Joinery
