import Joinery.Customers.Entities
import Joinery.Filter.Telling
import Joinery.Proofs.Filter.Classifying
import Joinery.Proofs.Query.Wording

/-!
A filter that is refused is told why, unless what it is refused for cannot be shown.

What a refusal shows stands in the entry for which the filter is refused.
-/

namespace Joinery

/-- A refusal that shows nothing but what stands in a value. -/
def Rejection.ShowsFrom (value : Value) (cause : Rejection) : Prop :=
  ∀ shown ∈ cause.shown?, shown.StandsIn value

variable {field key : String} {value : Value} {entity : EntitySchema} {levels : Nat}

/-- An array is refused for one of its items. -/
theorem arrayScalars_shows (field : String) (items : List Value) :
    FailsOnly (fun cause => ∀ shown ∈ cause.shown?, shown ∈ items) (arrayScalars field items) := by
  -- The first item that is no scalar is the one that is shown.
  induction items with
  | nil => exact .ok _
  | cons item rest ih =>
    rw [arrayScalars]
    split
    · refine .error ?_
      rintro _ ⟨⟩
      exact List.mem_cons_self
    · refine FailsOnly.map fun cause failed shown given => ?_
      exact List.mem_cons_of_mem _ (ih cause failed shown given)

/-- A value that is no operand is refused for what stands in it. -/
theorem readOperand_shows (field : String) (value : Value) :
    FailsOnly (Rejection.ShowsFrom value) (readOperand field value) := by
  -- An array is refused for one of its items, and any other value for itself.
  unfold readOperand
  split
  · exact .ok _
  · rename_i items _
    refine FailsOnly.map fun cause failed shown given => ?_
    exact .item (arrayScalars_shows field items cause failed shown given) (.self _)
  · refine .error ?_
    rintro _ ⟨⟩
    exact .self _

/-- An operator is refused for what stands in its value. -/
theorem readOperator_shows (field key : String) (value : Value) :
    FailsOnly (Rejection.ShowsFrom value) (readOperator field key value) := by
  unfold readOperator
  split
  · exact .ok _
  · refine (readOperand_shows field value).bind fun operand _ => ?_
    -- An array that is not accepted is not shown.
    split
    · exact .ok _
    · exact .error (by rintro _ ⟨⟩)
    · exact .ok _

/-- Operators are refused for what stands in the value of one of them. -/
theorem readOperators_shows (field : String) (entries : List (String × Value)) :
    FailsOnly (Rejection.ShowsFrom (.map entries)) (readOperators field entries) := by
  -- The first operator that is refused is the one that is told of.
  have only : FailsOnly (fun cause => ∃ entry ∈ entries, cause.ShowsFrom entry.2)
      (readOperators field entries) := by
    induction entries with
    | nil => exact .ok _
    | cons entry rest ih =>
      rw [readOperators]
      refine FailsOnly.bind ?_ fun first _ => FailsOnly.bind ?_ fun others _ => .ok _
      · exact fun cause failed =>
          ⟨entry, List.mem_cons_self, readOperator_shows field entry.1 entry.2 cause failed⟩
      · intro cause failed
        obtain ⟨other, member, shows⟩ := ih cause failed
        exact ⟨other, List.mem_cons_of_mem _ member, shows⟩
  intro cause failed shown given
  obtain ⟨entry, member, shows⟩ := only cause failed
  exact .entry member (shows shown given)

/-- What a field is compared with is refused for what stands in it. -/
theorem readField_shows (field : String) (value : Value) :
    FailsOnly (Rejection.ShowsFrom value) (readField field value) := by
  -- Operators are refused for their own values, and anything else as an operand.
  by_cases object : ∃ entries, value = .map entries
  · obtain ⟨entries, rfl⟩ := object
    exact readOperators_shows field entries
  · rw [readField.eq_2 field value fun entries same => object ⟨entries, same⟩]
    refine (readOperand_shows field value).bind fun operand _ => ?_
    split
    · exact .error (by rintro _ ⟨⟩)
    · exact .ok _

/-- An entry that is not read is refused, for what stands in its value. -/
theorem EntitySchema.readEntry_shows (entity : EntitySchema) (entry : String × Value) :
    FailsOnly (fun cause => entity.Refuses entry ∧ cause.ShowsFrom entry.2)
      (entity.readEntry entry) := by
  -- A refusal needs an open key, and then it is that of the value.
  intro cause failed
  constructor
  · by_contra fit
    cases (readEntry_eq_ok fit).symm.trans failed
  · rw [readEntry] at failed
    split at failed
    · contradiction
    · exact readField_shows _ _ cause failed

/-- Entries are refused for what stands in the value of one that the entity refuses. -/
theorem readConditions_shows (entity : EntitySchema) (entries : List (String × Value)) :
    FailsOnly (fun cause => ∃ entry ∈ entries, entity.Refuses entry ∧ cause.ShowsFrom entry.2)
      (readConditions entity entries) := by
  -- Entry by entry: the first one that is not read is the one that is refused.
  induction entries with
  | nil => exact .ok _
  | cons entry rest ih =>
    obtain ⟨key, value⟩ := entry
    have later : FailsOnly (fun cause => ∃ entry ∈ (key, value) :: rest,
        entity.Refuses entry ∧ cause.ShowsFrom entry.2) (readConditions entity rest) := by
      intro cause failed
      obtain ⟨other, member, own⟩ := ih cause failed
      exact ⟨other, List.mem_cons_of_mem _ member, own⟩
    have first := entity.readEntry_shows (key, value)
    simp only [EntitySchema.readEntry] at first
    rw [readConditions]
    cases allowed : entity.allowedFilterField? key with
    | none => exact later.bind fun reading _ => .ok _
    | some field =>
      rw [allowed] at first
      refine FailsOnly.bind ?_ fun own _ => later.bind fun reading _ => .ok _
      exact fun cause failed => ⟨(key, value), List.mem_cons_self, first cause failed⟩

variable {filter : Option Filter} {cause : Rejection} {reading : Reading}

/-- A filter is read whether or not a refusal of it could be told. -/
theorem Filter.toConditions_eq_ok_iff :
    Filter.toConditions levels entity filter = .ok reading ↔ Filter.read entity filter = .ok reading :=
  mapError_eq_ok

/-- A filter that is not read is refused when what this shows can be shown, and is misuse when it cannot. -/
theorem Filter.toConditions_refused (levels : Nat) (refused : Filter.read entity filter = .error cause) :
    (∀ shown ∈ cause.shown?, shown.Showable levels) ∧
        Filter.toConditions levels entity filter = .error (.rejected cause) ∨
      ∃ shown ∈ cause.shown?, ∃ misuse, shown.Unshown levels misuse ∧
        Filter.toConditions levels entity filter = .error (.misuse misuse) := by
  -- Telling a refusal shows what it holds, and that can fail.
  have told : Filter.toConditions levels entity filter =
      .error ((PlanFault.rejected cause).raised levels) := by rw [toConditions, refused]; rfl
  rw [told]
  rcases PlanFault.raised_cases (.rejected cause) rfl levels with
    ⟨showable, same⟩ | ⟨shown, given, misuse, unshown, same⟩
  · exact .inl ⟨showable, congrArg Except.error same⟩
  · exact .inr ⟨shown, given, misuse, unshown, congrArg Except.error same⟩

/-- Telling a refusal leaves it a failure, and makes no other one. -/
theorem Filter.toConditions_error_iff :
    (∃ fault, Filter.toConditions levels entity filter = .error fault) ↔
      ∃ cause, Filter.read entity filter = .error cause := by
  -- What fails is told in one way or another.
  rw [toConditions]
  cases Filter.read entity filter with
  | ok reading => exact iff_of_false nofun nofun
  | error cause => exact iff_of_true ⟨_, rfl⟩ ⟨cause, rfl⟩

/-- A filter is refused and told why exactly when it is not read, and what this shows can be shown. -/
theorem Filter.toConditions_eq_rejected_iff :
    Filter.toConditions levels entity filter = .error (.rejected cause) ↔
      Filter.read entity filter = .error cause ∧ ∀ shown ∈ cause.shown?, shown.Showable levels := by
  -- The refusal is told as it is, or misuse takes its place.
  cases refused : Filter.read entity filter with
  | ok reading =>
    rw [toConditions_eq_ok_iff.mpr refused]
    exact iff_of_false nofun nofun
  | error found =>
    rcases toConditions_refused levels refused with
      ⟨showable, told⟩ | ⟨shown, given, misuse, unshown, told⟩
    · rw [told]
      constructor
      · rintro ⟨⟩
        exact ⟨rfl, showable⟩
      · rintro ⟨⟨⟩, _⟩
        rfl
    · rw [told]
      refine iff_of_false nofun ?_
      rintro ⟨⟨⟩, showable⟩
      exact Value.showable_iff.mp (showable shown given) misuse unshown

/-- Where a refusal cannot be told, the entry for which the filter is refused cannot be shown. -/
theorem Filter.toConditions_misuse {entries : Entries Value} {misuse : Misuse}
    (failed : Filter.toConditions levels entity (some (.ofEntries entries)) = .error (.misuse misuse)) :
    ∃ entry ∈ entries.filter fun entry => !isLimitKey entry.1,
      entity.Refuses entry ∧ entry.2.Unshown levels misuse := by
  -- The refusal came from one entry, and what it shows stands in the value of that entry.
  cases refused : Filter.read entity (some (.ofEntries entries)) with
  | ok reading => cases (toConditions_eq_ok_iff.mpr refused).symm.trans failed
  | error cause =>
    obtain ⟨entry, member, own, shows⟩ := readConditions_shows entity _ cause refused
    rcases toConditions_refused levels refused with
      ⟨_, told⟩ | ⟨shown, given, other, unshown, told⟩
    · cases told.symm.trans failed
    · cases told.symm.trans failed
      exact ⟨entry, member, own, unshown.standsIn (shows shown given)⟩

/--
A filter is refused exactly for an entry that its entity refuses.

The refusal says why unless the entry that it is about cannot be shown, and then it is told as misuse. Any other
filter sets the conditions of its entries in their order, each on the first open field of its name, with several
values exactly behind the comparators for these, and leaves out the keys that are not open. Values under such
keys and behind unknown operators make no difference.
-/
theorem Filter.toConditions_classifies (levels : Nat) (entity : EntitySchema) (entries : Entries Value) :
    let named := entries.filter fun entry => !isLimitKey entry.1
    let told := Filter.toConditions levels entity (some (.ofEntries entries))
    ((∃ fault, told = .error fault) ↔ ∃ entry ∈ named, entity.Refuses entry) ∧
    (∀ fault, told = .error fault → (∃ cause, fault = .rejected cause) ∨
      ∃ misuse, fault = .misuse misuse ∧
        ∃ entry ∈ named, entity.Refuses entry ∧ entry.2.Unshown levels misuse) ∧
    (∀ cause, told = .error (.rejected cause) ↔
      Filter.read entity (some (.ofEntries entries)) = .error cause ∧
        ∀ shown ∈ cause.shown?, shown.Showable levels) ∧
    ((∀ entry ∈ named, ¬ entity.Refuses entry) → told = .ok ⟨named.flatMap entity.conditionsOf,
      (named.map Prod.fst).filter fun key => !entity.opens key⟩) ∧
    (∀ reading, told = .ok reading → ∀ condition ∈ reading.conditions,
      (condition.operand.isArray = true ↔
        condition.comparator = .isIn ∨ condition.comparator = .notIn)) ∧
    (∀ key field, entity.allowedFilterField? key = some field ↔
      ∃ before after, entity.allowedFilterFields = before ++ field :: after ∧
        lowered field = lowered key ∧ ∀ other ∈ before, lowered other ≠ lowered key) ∧
    ∀ others, List.Forall₂ entity.SameOpened entries others →
      told = Filter.toConditions levels entity (some (.ofEntries others)) := by
  refine ⟨?_, ?_, fun _ => toConditions_eq_rejected_iff, ?_, ?_,
    fun _ _ => EntitySchema.allowedFilterField?_eq_some_iff, ?_⟩
  · exact toConditions_error_iff.trans readConditions_error_iff
  · intro fault failed
    cases fault with
    | rejected cause => exact .inl ⟨cause, rfl⟩
    | misuse misuse => exact .inr ⟨misuse, rfl, toConditions_misuse failed⟩
    | conversion complaint =>
      -- Nothing is converted while a filter is read.
      obtain ⟨cause, read⟩ := toConditions_error_iff.mp ⟨_, failed⟩
      rcases toConditions_refused levels read with ⟨_, told⟩ | ⟨_, _, _, _, told⟩ <;>
        cases told.symm.trans failed
  · exact fun fit => toConditions_eq_ok_iff.mpr (readConditions_eq_ok fit)
  · intro reading read condition member
    rw [(readConditions_condition (toConditions_eq_ok_iff.mp read) condition member).2]
    cases condition.comparator <;> simp [Comparator.takesArray]
  · intro others same
    -- The cap stands under the same keys in both documents.
    have alike : Filter.read entity (some (.ofEntries entries)) =
        Filter.read entity (some (.ofEntries others)) := by
      refine readConditions_congr (List.rel_filter ?_ same)
      intro one other alike
      exact iff_of_eq (congrArg (fun key => (!isLimitKey key) = true) alike.readEntry.1)
    exact congrArg (Except.mapError _) alike

/-- A filter of subscriptions that names an unknown operator, a key that is not open, and a cap. -/
def startedEntries (unknown closed : Value) : Entries Value :=
  [("STATUS", .map [("$IN", .text "active"), ("$near", unknown)]), ("Colour", closed),
    ("$LIMIT", .int 3), ("start_date", .map [("$gte", .text "2025-01-01"), ("$ne", .null)]),
    ("Plan_Name", .text "Starter")]

/-- It is read whatever stands there, and an array that is set equal to a field is refused. -/
theorem startedEntries_read :
    (∀ entry ∈ (startedEntries (.map []) (.list [.map []])).filter fun entry =>
      !isLimitKey entry.1, ¬ subscription.Refuses entry) ∧
    Filter.toConditions 9 subscription (some (.ofEntries (startedEntries .null .null))) = .ok
      ⟨[⟨"status", .isIn, .array [.text "active"]⟩, ⟨"start_date", .atLeast, .scalar (.text "2025-01-01")⟩,
        ⟨"start_date", .notEqual, .scalar .null⟩, ⟨"plan_name", .equal, .scalar (.text "Starter")⟩],
        ["Colour"]⟩ ∧
    ∃ fault, Filter.toConditions 9 subscription
      (some (.ofEntries [("Status", .list [.text "active"])])) = .error fault := by
  -- The filter is read, so none of its entries is refused; where nothing is set, null says as much.
  obtain ⟨refused, _, _, read, _, _, alike⟩ :=
    Filter.toConditions_classifies 9 subscription (startedEntries (.map []) (.list [.map []]))
  have found : Filter.toConditions 9 subscription
      (some (.ofEntries (startedEntries (.map []) (.list [.map []])))) = .ok _ :=
    eq_ok_get (by decide +kernel)
  have fit : ∀ entry ∈ (startedEntries (.map []) (.list [.map []])).filter fun entry =>
      !isLimitKey entry.1, ¬ subscription.Refuses entry := by
    intro entry member own
    obtain ⟨fault, error⟩ := refused.mpr ⟨entry, member, own⟩
    cases found.symm.trans error
  have same : List.Forall₂ subscription.SameOpened (startedEntries (.map []) (.list [.map []]))
      (startedEntries .null .null) := by
    refine .cons (.operators _ ?_) (.cons (.closed (by decide +kernel) _ _)
      (List.forall₂_same.mpr fun entry _ => .same entry))
    exact .cons ⟨rfl, fun _ => rfl⟩ (.cons ⟨rfl, fun known => absurd known (by decide +kernel)⟩ .nil)
  refine ⟨fit, (alike _ same).symm.trans ((read fit).trans ?_), ?_⟩
  · exact congrArg Except.ok (by decide +kernel)
  · refine (Filter.toConditions_classifies 9 subscription _).1.mpr
      ⟨("Status", .list [.text "active"]), ?_, .plain (by decide +kernel) rfl nofun⟩
    exact List.mem_filter.mpr ⟨List.mem_singleton_self _, by decide +kernel⟩

/-- A number with too many digits in a list in a list is refused, and the filter is not told why. -/
theorem longItem_not_told : ¬ ∀ entries : Entries Value,
    (∃ entry ∈ entries.filter fun entry => !isLimitKey entry.1, subscription.Refuses entry) →
      ∃ cause, Filter.toConditions 9 subscription (some (.ofEntries entries)) =
        .error (.rejected cause) := by
  intro told
  have refused (n : Int) : Filter.read subscription
      (some (.ofEntries [("status", .list [.list [.int n]])])) =
        .error (.arrayItem "status" (.list [.int n])) := by rfl
  have opened : subscription.opens "status" = true := by decide +kernel
  obtain ⟨cause, rejected⟩ := told [("status", .list [.list [.int (powTen longestInteger)]])]
    ⟨_, List.mem_filter.mpr ⟨List.mem_singleton_self _, by decide +kernel⟩, .plain opened rfl nofun⟩
  obtain ⟨found, showable⟩ := Filter.toConditions_eq_rejected_iff.mp rejected
  -- The refusal would show the inner list, and the number in it.
  cases (refused _).symm.trans found
  have written := (showable _ rfl).written (powTen longestInteger)
    (.item (List.mem_singleton_self _) (.self _))
  exact absurd written (by decide +kernel)

end Joinery
