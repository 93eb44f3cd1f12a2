import Joinery.Proofs.Filter.Telling
import Joinery.Proofs.Plan.Cap
import Joinery.Proofs.Plan.JoinOrder
import Joinery.Proofs.Plan.Parts

/-!
A query of names and a whole cap fails to be planned over a cap that cannot be written, or with words.

The words show at most one value, and it stands in one of the filters of the query.
-/

namespace Joinery

/-- Whether a value names an entity or is left out: a text, or nothing. -/
def Value.isName : Value → Bool
  | .null | .text _ => true
  | _ => false

/-- A query whose entities are named by texts, and whose cap is a whole number if there is one. -/
structure Query.Proper (query : Query) : Prop where
  /-- The primary entity is named by a text. -/
  primary : query.primary.isName = true
  /-- The requested entities are named by texts. -/
  entities : ∀ request ∈ query.related, request.entity.isName = true
  /-- The entities that they are joined to are named by texts. -/
  parents : ∀ request ∈ query.related, request.parent.isName = true
  /-- The cap is a whole number. -/
  cap : query.maxRows.isDeclaredCap = true

/-- The filters of a query: the one on its primary entity, and those on the requested ones. -/
def Query.filters (query : Query) : List Filter :=
  query.filter.toList ++ query.related.flatMap (·.filter.toList)

/-- The values that a filter compares fields with, as the document has them. -/
def Filter.Compares (filter : Filter) (value : Value) : Prop :=
  ∃ key, (key, value) ∈ filter.conditions

/-- The values that the filters of a query compare fields with. -/
def Query.Compares (query : Query) (value : Value) : Prop :=
  ∃ filter ∈ query.filters, filter.Compares value

/-- A fault with a wording that shows nothing but what stands in values of the described kind. -/
structure PlanFault.ToldFrom (described : Value → Prop) (fault : PlanFault) : Prop where
  /-- It has a wording. -/
  worded : fault.isMisuse = false
  /-- What the wording shows stands in such a value. -/
  shows : ∀ shown ∈ fault.shown?, ∃ value, described value ∧ shown.StandsIn value

/-- What stands behind a text that is not empty leaves it that way. -/
theorem append_ne_empty {front : String} (filled : front ≠ "") (back : String) :
    front ++ back ≠ "" := by
  -- If both together were empty, so would be the front.
  intro empty
  exact filled (String.append_eq_empty_iff.mp empty).1

/-- The wording of a refusal says something. -/
theorem Rejection.message_ne_empty {levels : Nat} {cause : Rejection} {text : String}
    (told : cause.message levels = .ok text) : text ≠ "" := by
  -- Each wording begins with fixed words, those that show a value too.
  have shows {value : Value} {field complaint : String}
      (told : (value.show? levels).map (fun shown => aboutField field (complaint ++ shown)) = .ok text) :
      text ≠ "" := by
    obtain ⟨shown, _, rfl⟩ := map_eq_ok.mp told
    unfold aboutField
    repeat first | decide | refine append_ne_empty ?_ _
  cases cause with
  | arrayItem | unsupportedValue => exact shows told
  | _ =>
    cases told
    try unfold aboutField
    repeat first | decide | refine append_ne_empty ?_ _

/-- The complaint about a value that cannot be converted says something. -/
theorem ConversionError.message_ne_empty {levels : Nat} {complaint : ConversionError} {text : String}
    (told : complaint.message levels = .ok text) : text ≠ "" := by
  -- Before the shown value there are fixed words.
  rw [message_eq] at told
  obtain ⟨shown, _, rfl⟩ := map_eq_ok.mp told
  repeat first | decide | refine append_ne_empty ?_ _

/-- Where a fault of planning has a wording, the wording says something. -/
theorem PlanFault.message_ne_empty {levels : Nat} {fault : PlanFault} {text : String}
    (told : fault.message levels = .ok text) : text ≠ "" := by
  -- A refusal and a failed conversion have words of their own; misuse has none that is told.
  cases fault with
  | rejected cause => exact Rejection.message_ne_empty told
  | conversion complaint => exact ConversionError.message_ne_empty told
  | misuse => contradiction

variable {registry : Registry} {query : Query} {primary : EntitySchema} {described : Value → Prop}

/-- A refusal that shows nothing is told from any values. -/
theorem PlanFault.toldFrom_rejected {cause : Rejection} (silent : cause.shown? = none) :
    (rejected cause).ToldFrom described where
  worded := rfl
  shows shown given := by
    -- There is no value that it shows.
    cases silent.symm.trans given

/-- What is told from some values is told from more of them. -/
theorem PlanFault.ToldFrom.mono {more : Value → Prop} {fault : PlanFault}
    (told : fault.ToldFrom described) (widened : ∀ value, described value → more value) :
    fault.ToldFrom more where
  worded := told.worded
  shows shown given := by
    -- The value that it shows is the same one.
    obtain ⟨value, known, inside⟩ := told.shows shown given
    exact ⟨value, widened value known, inside⟩

/-- Whether a text or nothing names an entity: where it names none, that can be told. -/
theorem Registry.require_told {name : Value} (named : name.isName = true) :
    FailsOnly (PlanFault.ToldFrom described) (registry.require name) := by
  -- A name of another kind than text would be misuse.
  unfold Registry.require
  split
  · cases name with
    | text s =>
      simp only
      split
      · exact .ok _
      · exact .error (PlanFault.toldFrom_rejected rfl)
    | null => contradiction
    | _ => contradiction
  · exact .error (PlanFault.toldFrom_rejected rfl)

/-- Requests of named entities are resolved, or it can be told why not. -/
theorem resolveRequests_told {seen : List String} {requests : List RelatedRequest}
    (entities : ∀ request ∈ requests, request.entity.isName = true)
    (parents : ∀ request ∈ requests, request.parent.isName = true) :
    FailsOnly (PlanFault.ToldFrom described) (resolveRequests registry primary seen requests) := by
  -- Request by request: its entity, its parent, and then the others.
  induction requests generalizing seen with
  | nil => exact .ok _
  | cons request rest ih =>
    obtain ⟨entity, entities⟩ := List.forall_mem_cons.mp entities
    obtain ⟨parent, parents⟩ := List.forall_mem_cons.mp parents
    unfold resolveRequests
    refine (Registry.require_told entity).bind fun found _ => ?_
    split
    · exact .error (PlanFault.toldFrom_rejected rfl)
    · have remaining (parent : EntitySchema) : FailsOnly (PlanFault.ToldFrom described) (do
          let others ← resolveRequests registry primary (found.key :: seen) rest
          return ⟨found, parent, request.filter⟩ :: others) :=
        (ih entities parents).bind fun others _ => .ok _
      split
      · exact (Registry.require_told parent).bind fun parent _ => remaining parent
      · exact remaining primary

/-- Requests of named entities have an order, or it can be told why not. -/
theorem JoinOrder.ofRequests_told (proper : query.Proper) :
    FailsOnly (PlanFault.ToldFrom described) (JoinOrder.ofRequests registry primary query.related) := by
  -- Resolving requests can fail for a name, and ordering them for a chain that does not begin at the primary one.
  unfold JoinOrder.ofRequests
  refine (resolveRequests_told proper.entities proper.parents).bind fun resolved _ => ?_
  split
  · exact .error (PlanFault.toldFrom_rejected rfl)
  · exact .ok _

/-- The scalars that an operand is made of. -/
def Operand.scalars : Operand → List Scalar
  | .scalar value => [value]
  | .array values => values

/-- The scalars of an operand stand in the value that it is read from. -/
theorem Value.operand_standsIn {value : Value} {scalar : Scalar} (fit : value.isOperand = true)
    (member : scalar ∈ value.operand.scalars) : scalar.toValue.StandsIn value := by
  -- A scalar that is read off a value is that value.
  have same {value : Value} (found : value.scalar? = some scalar) : scalar.toValue = value := by
    cases value <;> cases found <;> rfl
  cases value with
  | list items =>
    obtain ⟨item, inside, found⟩ := List.mem_filterMap.mp member
    exact .item inside (same found ▸ .self _)
  | null | bool | int | float | text =>
    cases List.mem_singleton.mp member
    exact .self _
  | decimal | moment | date | map => contradiction

/-- The scalars of a fitted operand are those of the operand. -/
theorem Comparator.scalars_fit (comparator : Comparator) (operand : Operand) :
    (comparator.fit operand).scalars = operand.scalars := by
  -- Fitting puts a scalar into an array and takes none away.
  cases operand with
  | array => rfl
  | scalar value =>
    rw [fit]
    split <;> rfl

/-- What an entry compares its field with stands in its value. -/
theorem EntitySchema.conditionsOf_standsIn {entity : EntitySchema} {entry : String × Value}
    (fit : ¬ entity.Refuses entry) {condition : Condition} (member : condition ∈ entity.conditionsOf entry)
    {scalar : Scalar} (compared : scalar ∈ condition.operand.scalars) :
    scalar.toValue.StandsIn entry.2 := by
  obtain ⟨key, value⟩ := entry
  rw [conditionsOf] at member
  cases allowed : entity.allowedFilterField? key with
  | none => simp [allowed] at member
  | some field =>
    have opened := opens_of_some allowed
    simp only [allowed] at member
    by_cases object : ∃ entries, value = .map entries
    · -- An operator compares with what stands under its key.
      obtain ⟨entries, rfl⟩ := object
      obtain ⟨⟨operator, operand⟩, inside, found⟩ := List.mem_filterMap.mp member
      obtain ⟨comparator, known, rfl⟩ := Option.map_eq_some_iff.mp found
      have given : operand.isOperand = true := by
        rw [← Bool.not_eq_false]
        exact fun unfit => fit (.operator opened inside known (.inl unfit))
      rw [Comparator.scalars_fit] at compared
      exact .entry inside (Value.operand_standsIn given compared)
    · have noObject (entries : List (String × Value)) : value ≠ .map entries :=
        fun same => object ⟨entries, same⟩
      rw [Value.conditionsOn.eq_2 field value noObject, List.mem_singleton] at member
      subst member
      have given : value.isOperand = true := by
        -- What is neither a scalar nor an operator object would be refused.
        have scalar : value.scalar? ≠ none := fun missing => fit (.plain opened missing noObject)
        cases value with
        | null | bool | int | float | text => rfl
        | decimal | moment | date | list | map => exact absurd rfl scalar
      exact Value.operand_standsIn given compared

/-- The operand of a condition is bound, or it can be told of which scalar it cannot be. -/
theorem bindOperand_fails (entity : EntitySchema) (condition : Condition) :
    FailsOnly (fun complaint => ∃ scalar ∈ condition.operand.scalars, complaint.value = scalar.toValue)
      (bindOperand entity condition) := by
  obtain ⟨field, comparator, operand⟩ := condition
  unfold bindOperand
  cases operand with
  | scalar value =>
    refine FailsOnly.map fun complaint failed => ?_
    exact ⟨value, List.mem_singleton_self _, (bindValue_error failed).2.2⟩
  | array values =>
    -- The first scalar that cannot be bound is complained about.
    refine FailsOnly.map ?_
    simp only [Operand.scalars]
    induction values with
    | nil => exact .ok _
    | cons first rest ih =>
      rw [List.mapM_cons]
      refine FailsOnly.bind ?_ fun _ _ => FailsOnly.bind ?_ fun _ _ => .ok _
      · exact fun complaint failed => ⟨first, List.mem_cons_self, (bindValue_error failed).2.2⟩
      · intro complaint failed
        obtain ⟨scalar, member, same⟩ := ih complaint failed
        exact ⟨scalar, List.mem_cons_of_mem _ member, same⟩

/-- Conditions are placed, or it can be told which of their scalars cannot be bound. -/
theorem placeConditions_fails (entity : EntitySchema) (place : Nat) (conditions : List Condition) :
    FailsOnly (fun complaint => ∃ condition ∈ conditions, ∃ scalar ∈ condition.operand.scalars,
      complaint.value = scalar.toValue) (placeConditions entity place conditions) := by
  -- The first condition that cannot be placed is the one that is told of.
  induction conditions generalizing place with
  | nil => exact .ok _
  | cons condition rest ih =>
    unfold placeConditions placeCondition
    refine FailsOnly.bind (FailsOnly.bind ?_ fun binding _ => ?_) fun placed _ => ?_
    · intro complaint failed
      obtain ⟨scalar, member, same⟩ := bindOperand_fails entity condition complaint failed
      exact ⟨condition, List.mem_cons_self, scalar, member, same⟩
    · split <;> exact .ok _
    · refine FailsOnly.bind ?_ fun others _ => .ok _
      intro complaint failed
      obtain ⟨other, member, own⟩ := ih _ complaint failed
      exact ⟨other, List.mem_cons_of_mem _ member, own⟩

/-- A filter is planned, or it can be told why not, with what stands in its own values. -/
theorem planFilter_told (entity : EntitySchema) (place : Nat) (filter : Option Filter) :
    FailsOnly (PlanFault.ToldFrom fun value => ∃ own ∈ filter, own.Compares value)
      (planFilter entity place filter) := by
  -- It is refused while it is read, or one of its values cannot be converted.
  unfold planFilter
  cases filter with
  | none => exact .ok _
  | some filter =>
    refine FailsOnly.bind (.mapError fun cause failed => ?_) fun reading read => ?_
    · obtain ⟨⟨key, value⟩, member, _, shows⟩ := readConditions_shows entity _ cause failed
      exact ⟨rfl, fun shown given => ⟨value, ⟨filter, rfl, key, member⟩, shows shown given⟩⟩
    · refine FailsOnly.bind (.mapError fun complaint failed => ?_) fun bound _ => .ok _
      have read : readConditions entity filter.conditions = .ok reading := mapError_eq_ok.mp read
      -- Every condition was set by an entry that is not refused.
      have fit : ∀ entry ∈ filter.conditions, ¬ entity.Refuses entry := by
        intro entry member own
        obtain ⟨cause, refused⟩ := readConditions_error_iff.mpr ⟨entry, member, own⟩
        cases read.symm.trans refused
      cases read.symm.trans (readConditions_eq_ok fit)
      obtain ⟨condition, inside, scalar, compared, same⟩ :=
        placeConditions_fails entity place _ complaint failed
      obtain ⟨entry, member, own⟩ := List.mem_flatMap.mp inside
      refine ⟨rfl, ?_⟩
      rintro _ ⟨⟩
      refine ⟨entry.2, ⟨filter, rfl, entry.1, member⟩, ?_⟩
      exact same ▸ EntitySchema.conditionsOf_standsIn (fit entry member) own compared

/-- A filter that has to be there is there, or it can be told that it is missing. -/
theorem Query.requiredFilter_told (query : Query) :
    FailsOnly (PlanFault.ToldFrom described) query.requiredFilter := by
  -- The filter is missing, or it says nothing, or it is there.
  unfold Query.requiredFilter
  split
  · exact .error (PlanFault.toldFrom_rejected rfl)
  · split
    · exact .error (PlanFault.toldFrom_rejected rfl)
    · exact .ok _

/-- The largest cap of a registry has too many digits, and a number is refused for the same reason. -/
def Registry.Unwritten (registry : Registry) (misuse : Misuse) : Prop :=
  isWritable registry.maxLimit = false ∧ misuse = .notAllowed unwritableIntegerText

/-- A positive number that the largest cap bounds is written, unless the largest cap cannot be. -/
theorem Registry.checkWritable_unwritten {cap : Int} (positive : 0 < cap)
    (bounded : cap ≤ registry.maxLimit) :
    FailsOnly registry.Unwritten (checkWritable cap) := by
  unfold checkWritable
  split
  · exact .ok _
  · rename_i long
    refine .error ⟨?_, rfl⟩
    -- The largest cap has at least as many digits.
    simp only [isWritable, decide_eq_true_eq, decide_eq_false_iff_not] at long ⊢
    omega

/-- The cap on the records of one parent is written, unless the largest cap cannot be. -/
theorem Registry.checkEntityLimit_unwritten (maxPos : 0 < registry.maxLimit)
    (filter : Option Filter) : FailsOnly registry.Unwritten (registry.checkEntityLimit filter) := by
  -- A cap that is not positive is not written at all.
  unfold Registry.checkEntityLimit Registry.entityLimit
  cases filter.bind Filter.limit with
  | none => exact .ok _
  | some limit =>
    by_cases low : limit ≤ 0
    · simp only [if_pos low]
      exact .ok _
    · simp only [if_neg low]
      exact checkWritable_unwritten (by omega) (by omega)

/-- The cap of a query is written, unless the largest cap cannot be. -/
theorem Query.plannedCap_unwritten (defaultPos : 0 < registry.defaultLimit)
    (maxPos : 0 < registry.maxLimit) (declared : query.maxRows.isDeclaredCap = true) :
    FailsOnly registry.Unwritten (query.plannedCap registry) := by
  -- A declared cap is a whole number that the largest cap bounds.
  obtain ⟨limit, cap, found, whole, positive, bounded⟩ :=
    Registry.rowLimit_of_declared defaultPos maxPos declared
  unfold Query.plannedCap
  rw [found]
  refine (FailsOnly.ok limit).bind fun _ same => ?_
  cases same
  rw [whole]
  refine (FailsOnly.ok cap).bind fun _ same => ?_
  cases same
  exact (Registry.checkWritable_unwritten positive bounded).bind fun _ _ => .ok _

/--
A fault of planning: it has a wording that shows at most what stands in a filter of the query, or it is about the
largest cap, which cannot be written.
-/
def Registry.Refuses (registry : Registry) (query : Query) (fault : PlanFault) : Prop :=
  fault.ToldFrom query.Compares ∨ ∃ misuse, registry.Unwritten misuse ∧ fault = .misuse misuse

/-- A fault that is told from the filters of a query is one of planning. -/
theorem Registry.Refuses.told {α : Type} {computed : Except PlanFault α}
    (only : FailsOnly (PlanFault.ToldFrom query.Compares) computed) :
    FailsOnly (registry.Refuses query) computed :=
  -- Such a fault is the first of the two kinds.
  fun fault failed => .inl (only fault failed)

/-- A cap that cannot be written is a fault of planning. -/
theorem Registry.Refuses.unwritten {α : Type} {computed : Except Misuse α}
    (only : FailsOnly registry.Unwritten computed) :
    FailsOnly (registry.Refuses query) (computed.mapError .misuse) :=
  -- Such a fault is the second of the two kinds.
  .mapError fun misuse failed => .inr ⟨misuse, only misuse failed, rfl⟩

/-- A filter of a query is planned, or there is a fault of planning. -/
theorem planFilter_refuses (entity : EntitySchema) (place : Nat) {filter : Option Filter}
    (own : ∀ one ∈ filter, one ∈ query.filters) :
    FailsOnly (registry.Refuses query) (planFilter entity place filter) := by
  -- The value that the fault shows stands in the filter, which is one of the query.
  refine Registry.Refuses.told fun fault failed => ?_
  refine (planFilter_told entity place filter fault failed).mono ?_
  rintro value ⟨one, given, compares⟩
  exact ⟨one, own one given, compares⟩

/-- Joins are planned, or it can be told why not, or the largest cap cannot be written. -/
theorem planJoins_refuses (maxPos : 0 < registry.maxLimit) (all : List JoinStep) (place : Nat)
    {steps : List JoinStep} (own : ∀ step ∈ steps, ∀ one ∈ step.filter, one ∈ query.filters) :
    FailsOnly (registry.Refuses query) (planJoins registry all place steps) := by
  -- Step by step: its filter, its cap, and then the others.
  induction steps generalizing place with
  | nil => exact .ok _
  | cons step rest ih =>
    obtain ⟨first, others⟩ := List.forall_mem_cons.mp own
    unfold planJoins
    refine (planFilter_refuses _ _ first).bind fun filter _ => ?_
    -- The check comes before the join is planned, and only its failure counts here.
    refine (Registry.Refuses.unwritten (Registry.checkEntityLimit_unwritten maxPos _)).bind ?_
    exact fun _ _ => (ih _ others).bind fun others _ => .ok _

/-- The filters of the steps of a query are filters of the query. -/
theorem JoinOrder.filter_mem_filters {order : JoinOrder}
    (ordered : JoinOrder.ofRequests registry primary query.related = .ok order) :
    ∀ step ∈ order.steps, ∀ one ∈ step.filter, one ∈ query.filters := by
  -- A step has the filter of the request that it was made for.
  intro step member one given
  obtain ⟨request, requested, _, same⟩ := (ofRequests_sound ordered).requested step member
  refine List.mem_append_right _ (List.mem_flatMap.mpr ⟨request, requested, ?_⟩)
  exact Option.mem_toList.mpr (same ▸ given)

/-- A query of named entities is planned, or it can be told why not, or the largest cap cannot be written. -/
theorem Registry.plan_refuses (defaultPos : 0 < registry.defaultLimit)
    (maxPos : 0 < registry.maxLimit) (proper : query.Proper) :
    FailsOnly (registry.Refuses query) (registry.plan query) := by
  -- In the order of planning: filter, primary entity, joins, their filters and caps, and the cap of all.
  unfold Registry.plan
  split
  · exact Refuses.told (.error (PlanFault.toldFrom_rejected rfl))
  · refine (Refuses.told query.requiredFilter_told).bind fun filter required => ?_
    refine (Refuses.told (require_told proper.primary)).bind fun primary _ => ?_
    refine (Refuses.told (JoinOrder.ofRequests_told proper)).bind fun order ordered => ?_
    refine (planJoins_refuses maxPos _ _ (JoinOrder.filter_mem_filters ordered)).bind fun joins _ => ?_
    have main : ∀ one ∈ some filter, one ∈ query.filters := by
      rintro _ ⟨⟩
      exact List.mem_append_left _ (Option.mem_toList.mpr (Query.requiredFilter_ok required))
    refine (planFilter_refuses _ _ main).bind fun main _ => ?_
    have capped := Query.plannedCap_unwritten defaultPos maxPos proper.cap
    exact (Refuses.unwritten capped).bind fun cap _ => .ok _

end Joinery
