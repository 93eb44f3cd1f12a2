import Joinery.Proofs.Service.Answering

/-! What planning has to tell is told by every result, but fields that were left out only by answers. -/

namespace Joinery

variable {registry : Registry} {query : Query} {plan : Plan} {levels : Nat}

/-- Telling of fields in one case and not in another makes no difference only where there are none. -/
theorem warnings_eq_iff {told rejected : List String} {first second : Bool} :
    told ++ (if first then rejected.map ignoredFieldWarning else []) =
        told ++ (if second then rejected.map ignoredFieldWarning else []) ↔
      first = second ∨ rejected = [] := by
  -- What is told in both cases is taken off, and each list of fields has one warning for each.
  rw [List.append_cancel_left_eq]
  cases first <;> cases second <;> simp [eq_comm]

/--
Every result of a planned query has the warnings of its plan, whatever the database holds and the signal says.

The fields that its filters left out are told by answers alone. So two results of it have the same warnings
exactly when both are answers or neither is, or no field was left out.
-/
theorem Service.warnings_kept_iff (planned : registry.plan query = .ok plan) :
    (∀ database signal, ∃ result,
      (⟨registry, database, levels⟩ : Service).execute query signal = .ok result ∧
      result.warnings = plan.warningTexts ++
        if result.success then plan.rejectedFields.map ignoredFieldWarning else []) ∧
    ∀ first second signal later a b,
      (⟨registry, first, levels⟩ : Service).execute query signal = .ok a →
      (⟨registry, second, levels⟩ : Service).execute query later = .ok b →
        (a.warnings = b.warnings ↔ a.success = b.success ∨ plan.rejectedFields = []) := by
  -- The warnings of a result are known from the plan and from whether it is a success.
  have told (database : Database) (signal : CancelSignal) (result : QueryResult)
      (executed : (⟨registry, database, levels⟩ : Service).execute query signal = .ok result) :
      result.warnings = plan.warningTexts ++
        if result.success then plan.rejectedFields.map ignoredFieldWarning else [] :=
    warnings_of_execute ⟨registry, database, levels⟩ planned executed
  -- Every plan is carried out to some result.
  refine ⟨fun database signal => ?_, fun first second signal later a b one other => ?_⟩
  · obtain ⟨result, carried⟩ := exists_carryOut ⟨registry, database, levels⟩ plan signal
    have executed : (⟨registry, database, levels⟩ : Service).execute query signal = .ok result := by
      simp only [execute, planned, carried]
    exact ⟨result, executed, told _ _ _ executed⟩
  · rw [told _ _ _ one, told _ _ _ other]
    exact warnings_eq_iff

/-- A query of an owner with pets that are to be joined to themselves. -/
def looseQuery : Query where
  primary := .text "Owner"
  filter := some ⟨[("id", .text "A")], none⟩
  related := [⟨.text "Pet", none, .text "Pet"⟩]
  selectedEntities := []
  selectedFields := []
  maxRows := .null

/-- The plan of that query. -/
def loosePlan : Plan := (petRegistry.plan looseQuery).toOption.get (by decide +kernel)

/-- What there is to tell about pets that are to be joined to themselves. -/
def looseWarning : String :=
  "Could not order joins for Pet (circular parents); entities whose parent is not yet joined " ++
    "are joined to Owner"

/-- A query that leaves no field out has one and the same warning in all of its results. -/
theorem loosePlan_warnings_kept :
    petRegistry.plan looseQuery = .ok loosePlan ∧
    ∀ database signal, ∃ result,
      (⟨petRegistry, database, 900⟩ : Service).execute looseQuery signal = .ok result ∧
      result.warnings = [looseWarning] := by
  have planned : petRegistry.plan looseQuery = .ok loosePlan := eq_ok_get _
  -- No field is left out, so successes and failures warn alike.
  have warned : loosePlan.warningTexts = [looseWarning] := by decide +kernel
  have complete : loosePlan.rejectedFields = [] := by decide +kernel
  obtain ⟨told, _⟩ := Service.warnings_kept_iff planned
  refine ⟨planned, fun database signal => ?_⟩
  obtain ⟨result, executed, warnings⟩ := told database signal
  rw [warned, complete] at warnings
  exact ⟨result, executed, by simpa using warnings⟩

/-- A query of an owner by a field that owners have not. -/
def strayQuery : Query where
  primary := .text "Owner"
  filter := some ⟨[("id", .text "A"), ("nope", .int 1)], none⟩
  related := []
  selectedEntities := []
  selectedFields := []
  maxRows := .null

/-- The plan of that query. -/
def strayPlan : Plan := (petRegistry.plan strayQuery).toOption.get (by decide +kernel)

/-- The answer to that query, which tells of the field. -/
def strayResult : QueryResult where
  success := true
  error := none
  data := [("owner", .map ownerRecord)]
  counts := [("owner", 1)]
  warnings := ["Filter field 'Owner.nope' is not filterable and was ignored"]

/-- The field that a filter left out is told by the answer, and neither by a cancellation nor by a failure. -/
theorem Service.warnings_not_kept :
    ¬ (∀ registry query plan, Registry.plan registry query = .ok plan →
      ∀ first second levels signal later a b,
        (⟨registry, first, levels⟩ : Service).execute query signal = .ok a →
        (⟨registry, second, levels⟩ : Service).execute query later = .ok b → a.warnings = b.warnings) ∧
    Registry.ofDocument petDocument = .ok petRegistry ∧
    petRegistry.plan strayQuery = .ok strayPlan ∧
    petService.execute strayQuery .quiet = .ok strayResult ∧
    petService.execute strayQuery .raised = .ok (.failed "Query cancelled before execution" []) ∧
    ({ petService with database := .empty } : Service).execute strayQuery .quiet =
      .ok (.failed "Query on Owner (joins: none) failed: no such table: owner" []) := by
  have planned : petRegistry.plan strayQuery = .ok strayPlan := eq_ok_get _
  have answered : petService.execute strayQuery .quiet = .ok strayResult := by
    rw [execute_eq_answerInOrder planned (by decide +kernel)]
    decide +kernel
  -- The cancellation comes first, and tells of the plan only.
  have cancelled :
      petService.execute strayQuery .raised = .ok (.failed "Query cancelled before execution" []) := by
    decide +kernel
  -- The answer warns of the field, and the cancellation does not.
  refine ⟨fun kept => ?_, petService_read, planned, answered, cancelled, by decide +kernel⟩
  have same := kept _ _ _ planned petDatabase petDatabase 900 .quiet .raised _ _ answered cancelled
  exact absurd same (by decide)

end Joinery
