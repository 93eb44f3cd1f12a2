import Joinery.Proofs.Value.Showing
import Joinery.Query.Fault

/-! A complaint is told unless it shows a value that cannot be shown. -/

namespace Joinery

/-- The value that the wording of a refusal shows, if it shows one. -/
def Rejection.shown? : Rejection → Option Value
  | .arrayItem _ item => some item
  | .unsupportedValue _ value => some value
  | _ => none

/-- The value that the wording of a fault in planning shows, if it shows one. -/
def PlanFault.shown? : PlanFault → Option Value
  | .rejected cause => cause.shown?
  | .conversion complaint => some complaint.value
  | .misuse _ => none

/-- Whether a fault of planning is misuse, and none that has a wording. -/
def PlanFault.isMisuse : PlanFault → Bool
  | .misuse _ => true
  | _ => false

variable {levels : Nat} {field : String} {type : SemanticType} {value : Value} {bound : BoundValue}
  {complaint : ConversionError} {fault : PlanFault} {misuse : Misuse}

/-- What can be shown has a text. -/
theorem Value.Showable.exists_text (showable : value.Showable levels) :
    ∃ text, value.show? levels = .ok text :=
  ⟨_, show?_eq_ok_iff.mpr ⟨showable, rfl⟩⟩

/-- What shows a value has a wording exactly when the value can be shown. -/
theorem Value.exists_map_show?_iff {word : String → String} :
    (∃ text, (value.show? levels).map word = .ok text) ↔ value.Showable levels := by
  -- The words around the value are put to its text, if there is one.
  constructor
  · rintro ⟨_, worded⟩
    obtain ⟨_, shown, _⟩ := map_eq_ok.mp worded
    exact (show?_eq_ok_iff.mp shown).1
  · intro showable
    obtain ⟨text, shown⟩ := showable.exists_text
    exact ⟨word text, map_eq_ok.mpr ⟨text, shown, rfl⟩⟩

/-- The complaint about a value is its text among other words. -/
theorem ConversionError.message_eq (complaint : ConversionError) (levels : Nat) :
    complaint.message levels = (complaint.value.show? levels).map fun shown =>
      "Invalid value for field '" ++ complaint.field ++ "' (type: " ++ complaint.type ++ "): " ++ shown ++
        if complaint.reason = "" then "" else ". " ++ complaint.reason := by
  -- The text of the value is asked for before anything else is put together.
  rw [message]
  cases complaint.value.show? levels <;> rfl

/-- A complaint about a value is told exactly when the value can be shown. -/
theorem ConversionError.exists_message_iff :
    (∃ text, complaint.message levels = .ok text) ↔ complaint.value.Showable levels := by
  -- Only the value can keep the complaint from being told.
  rw [message_eq]
  exact Value.exists_map_show?_iff

/-- A refusal is told exactly when the value that it shows can be shown. -/
theorem Rejection.exists_message_iff {cause : Rejection} :
    (∃ text, cause.message levels = .ok text) ↔ ∀ value ∈ cause.shown?, value.Showable levels := by
  -- Most refusals show no value, and are always told.
  cases cause with
  | arrayItem | unsupportedValue =>
    simp only [message, shown?, Option.mem_some_iff, forall_eq']
    exact Value.exists_map_show?_iff
  | _ => exact iff_of_true ⟨_, rfl⟩ nofun

/-- A fault of planning is told exactly when it has a wording and what it shows can be shown. -/
theorem PlanFault.exists_message_iff :
    (∃ text, fault.message levels = .ok text) ↔
      fault.isMisuse = false ∧ ∀ value ∈ fault.shown?, value.Showable levels := by
  -- A refusal may show a value, a complaint shows one, and misuse is told in no words here.
  cases fault with
  | rejected cause => simpa [message, isMisuse, shown?] using Rejection.exists_message_iff
  | conversion complaint =>
    simpa [message, isMisuse, shown?] using ConversionError.exists_message_iff
  | misuse cause => simp [message, isMisuse]

/-- What shows a value has one wording, in however many levels the value is shown. -/
theorem Value.map_show?_unique {word : String → String} {others : Nat} {text other : String}
    (told : (value.show? levels).map word = .ok text)
    (again : (value.show? others).map word = .ok other) : other = text := by
  obtain ⟨shown, first, rfl⟩ := map_eq_ok.mp told
  obtain ⟨shownToo, second, rfl⟩ := map_eq_ok.mp again
  -- The text that shows a value is its own, and the levels only decide whether it is made.
  rw [← (show?_eq_ok_iff.mp first).2, ← (show?_eq_ok_iff.mp second).2]

/-- A fault of planning has one wording, in however many levels values are shown. -/
theorem PlanFault.message_unique {others : Nat} {text other : String}
    (told : fault.message levels = .ok text) (again : fault.message others = .ok other) :
    other = text := by
  -- Either no value is shown, or the words around it are the same.
  cases fault with
  | conversion complaint =>
    rw [message, ConversionError.message_eq] at told again
    exact Value.map_show?_unique told again
  | rejected cause =>
    cases cause with
    | arrayItem | unsupportedValue => exact Value.map_show?_unique told again
    | _ => exact Except.ok.inj (again.symm.trans told)
  | misuse => contradiction

/-- A wording fails only as what it shows fails to be shown. -/
theorem PlanFault.message_unshown (worded : fault.isMisuse = false) :
    FailsOnly (fun misuse => ∃ value ∈ fault.shown?, value.Unshown levels misuse)
      (fault.message levels) := by
  -- Only the text of the value can fail, and the words around it cannot.
  have only (value : Value) (word : String → String) (same : fault.shown? = some value) :
      FailsOnly (fun misuse => ∃ value ∈ fault.shown?, value.Unshown levels misuse)
        ((value.show? levels).map word) :=
    FailsOnly.map fun misuse failed => ⟨value, same, value.show?_unshown levels misuse failed⟩
  cases fault with
  | conversion complaint =>
    rw [message, ConversionError.message_eq]
    exact only _ _ rfl
  | rejected cause =>
    cases cause with
    | arrayItem | unsupportedValue => exact only _ _ rfl
    | _ => exact .ok _
  | misuse => contradiction

/--
What comes of a fault with a wording: itself when all that it shows can be shown, and otherwise the misuse for
which something cannot.
-/
theorem PlanFault.raised_cases (fault : PlanFault) (worded : fault.isMisuse = false) (levels : Nat) :
    (∀ value ∈ fault.shown?, value.Showable levels) ∧ fault.raised levels = fault ∨
      ∃ value ∈ fault.shown?, ∃ misuse, value.Unshown levels misuse ∧
        fault.raised levels = .misuse misuse := by
  -- The fault is raised as it is when there are words for it, and the value is to blame when there are none.
  rw [raised]
  cases told : fault.message levels with
  | ok text => exact .inl ⟨(exists_message_iff.mp ⟨text, told⟩).2, rfl⟩
  | error misuse =>
    obtain ⟨value, shows, unshown⟩ := message_unshown worded misuse told
    exact .inr ⟨value, shows, misuse, unshown, rfl⟩

/-- The complaint about a value that is not bound is about that value, with its field and its meaning. -/
theorem bindValue_error (refused : bindValue levels field type value = .error complaint) :
    complaint.field = field ∧ complaint.type = type.name ∧ complaint.value = value := by
  -- Null is bound, and so is what is converted; the complaint is made of what is left.
  rw [bindValue] at refused
  split at refused
  · contradiction
  · split at refused
    · contradiction
    · cases refused
      exact ⟨rfl, rfl, rfl⟩

/-- A value is bound whether or not a complaint about it could be told. -/
theorem coerce_eq_ok_iff :
    coerce levels field type value = .ok bound ↔ bindValue levels field type value = .ok bound :=
  mapError_eq_ok

/-- A value that is not bound is complained about when it can be shown, and is misuse when it cannot. -/
theorem coerce_refused (refused : bindValue levels field type value = .error complaint) :
    value.Showable levels ∧ coerce levels field type value = .error (.conversion complaint) ∨
      ∃ misuse, value.Unshown levels misuse ∧
        coerce levels field type value = .error (.misuse misuse) := by
  have told : coerce levels field type value =
      .error ((PlanFault.conversion complaint).raised levels) := by rw [coerce, refused]; rfl
  -- The complaint shows the value that it is about, and nothing else.
  have shows : (PlanFault.conversion complaint).shown? = some value :=
    congrArg some (bindValue_error refused).2.2
  rw [told]
  rcases PlanFault.raised_cases (.conversion complaint) rfl levels with
    ⟨showable, same⟩ | ⟨shown, given, misuse, unshown, same⟩
  · exact .inl ⟨showable value shows, congrArg Except.error same⟩
  · cases Option.mem_unique given shows
    exact .inr ⟨misuse, unshown, congrArg Except.error same⟩

/-- A value is refused with a complaint exactly when it cannot be bound and can be shown. -/
theorem coerce_eq_conversion_iff :
    coerce levels field type value = .error (.conversion complaint) ↔
      bindValue levels field type value = .error complaint ∧ value.Showable levels := by
  -- What cannot be bound is told as a complaint, or misuse takes its place.
  cases refused : bindValue levels field type value with
  | ok bound =>
    rw [coerce_eq_ok_iff.mpr refused]
    exact iff_of_false nofun nofun
  | error found =>
    rcases coerce_refused refused with ⟨showable, told⟩ | ⟨misuse, unshown, told⟩
    · simp [told, showable]
    · have hidden : ¬ value.Showable levels := fun showable =>
        Value.showable_iff.mp showable misuse unshown
      simp [told, hidden]

/-- A value that is refused with misuse cannot be bound, and cannot be shown for that reason. -/
theorem coerce_misuse (failed : coerce levels field type value = .error (.misuse misuse)) :
    (∃ complaint, bindValue levels field type value = .error complaint) ∧
      value.Unshown levels misuse := by
  -- There would have been no misuse if the value had been bound.
  cases refused : bindValue levels field type value with
  | ok bound => cases (coerce_eq_ok_iff.mpr refused).symm.trans failed
  | error complaint =>
    refine ⟨⟨complaint, rfl⟩, ?_⟩
    rcases coerce_refused refused with ⟨_, told⟩ | ⟨other, unshown, told⟩
    · cases told.symm.trans failed
    · cases told.symm.trans failed
      exact unshown

end Joinery
