import Joinery.Proofs.Filter.Vanishing
import Joinery.Proofs.Service.Running

/-! A query whose filter comes to nothing tells which of its keys were left out. -/

namespace Joinery

variable {registry : Registry} {service : Service} {query : Query} {plan : Plan}
  {signal : CancelSignal} {result : QueryResult}

/-- A filter that is required says something about some field. -/
theorem Query.requiredFilter_conditions {filter : Filter}
    (required : query.requiredFilter = .ok filter) : filter.conditions ≠ [] := by
  -- An empty filter is refused before it is required.
  rw [requiredFilter, requiredFilter_ok required] at required
  dsimp only at required
  split at required
  · contradiction
  · rename_i said
    rwa [Filter.isEmpty, List.isEmpty_iff] at said

/-- A key of the primary filter that is not open is among the fields that a plan leaves out. -/
theorem Planning.rejected_of_closed (parts : Planning registry query) {key : String} {value : Value}
    (member : (key, value) ∈ parts.filter.conditions) (closed : parts.primary.opens key = false) :
    parts.primary.name ++ "." ++ key ∈ parts.plan.rejectedFields := by
  -- The planner leaves out the closed keys of the filter.
  refine List.mem_append_right _ ?_
  rw [planFilter_rejected parts.narrowed, EntitySchema.closedKeys, List.mem_filterMap]
  exact ⟨(key, value), member, by simp [closed]⟩

/-- An answer that is a success warns of every field that its plan leaves out. -/
theorem Service.warned_of_rejected (planned : service.registry.plan query = .ok plan)
    {field : String} (rejected : field ∈ plan.rejectedFields)
    (executed : service.execute query signal = .ok result) (succeeded : result.success = true) :
    ignoredFieldWarning field ∈ result.warnings := by
  -- A success tells its rejected fields after the warnings of its plan.
  rw [warnings_of_execute service planned executed, if_pos succeeded]
  exact List.mem_append_right _ (List.mem_map_of_mem rejected)

/--
A query that leaves its primary entity unfiltered tells of a key that was left out.

The primary entity is unfiltered exactly when each key of its filter is closed to filters or holds
an object without known operators. The one query that tells of nothing is one whose keys are all open
and hold such objects.
-/
theorem Service.unfiltered_told (planned : service.registry.plan query = .ok plan) :
    ∃ filter, query.filter = some filter ∧ filter.conditions ≠ [] ∧
      (plan.statement.conditions = [] ↔ ∀ entry ∈ filter.conditions,
        plan.primary.opens entry.1 = false ∨ entry.2.setsNothing = true) ∧
      (plan.statement.conditions = [] →
        (∀ entry ∈ filter.conditions,
          plan.primary.opens entry.1 = true ∧ entry.2.setsNothing = true) ∨
        ∃ entry ∈ filter.conditions, plan.primary.opens entry.1 = false ∧
          plan.primary.name ++ "." ++ entry.1 ∈ plan.rejectedFields ∧
          ∀ signal result, service.execute query signal = .ok result → result.success = true →
            ignoredFieldWarning (plan.primary.name ++ "." ++ entry.1) ∈ result.warnings) := by
  obtain ⟨parts, rfl⟩ := Registry.plan_ok planned
  have unfiltered := planFilter_eq_nil parts.narrowed
  refine ⟨parts.filter, Query.requiredFilter_ok parts.filtered,
    Query.requiredFilter_conditions parts.filtered, unfiltered, fun none => ?_⟩
  by_cases closed : ∃ entry ∈ parts.filter.conditions, parts.primary.opens entry.1 = false
  · obtain ⟨⟨key, value⟩, member, shut⟩ := closed
    have rejected := parts.rejected_of_closed member shut
    exact .inr ⟨_, member, shut, rejected, fun signal result executed succeeded =>
      warned_of_rejected planned rejected executed succeeded⟩
  · -- Without a closed key it is the operator objects that come to nothing.
    refine .inl fun entry member => ?_
    have opened : parts.primary.opens entry.1 ≠ false := fun shut => closed ⟨entry, member, shut⟩
    exact ⟨eq_true_of_ne_false opened, (unfiltered.mp none entry member).resolve_left opened⟩

/-- A query of owners under one filter, without any related entity. -/
def ownerQuery (filter : Filter) : Query where
  primary := .text "Owner"
  filter := some filter
  related := []
  selectedEntities := []
  selectedFields := []
  maxRows := .null

/-- A misspelled field and an object without known operators. -/
def mistypedFilter : Filter := ⟨[("citty", .text "Oslo"), ("id", .map [("$exists", .bool true)])], none⟩

/-- The plan of the query of owners with that filter. -/
def mistypedPlan : Plan :=
  (petService.registry.plan (ownerQuery mistypedFilter)).toOption.get (by decide +kernel)

/-- The mistyped filter has no effect on the owners, and the misspelled field is told. -/
theorem Service.mistyped_told :
    petService.registry.plan (ownerQuery mistypedFilter) = .ok mistypedPlan ∧
    mistypedPlan.statement.conditions = [] ∧
    ∃ entry ∈ mistypedFilter.conditions, mistypedPlan.primary.opens entry.1 = false ∧
      mistypedPlan.primary.name ++ "." ++ entry.1 ∈ mistypedPlan.rejectedFields := by
  have planned : petService.registry.plan (ownerQuery mistypedFilter) = .ok mistypedPlan :=
    eq_ok_get _
  have none : mistypedPlan.statement.conditions = [] := by decide +kernel
  obtain ⟨filter, given, _, _, told⟩ := unfiltered_told planned
  cases given
  refine ⟨planned, none, ?_⟩
  rcases told none with open_ | ⟨entry, member, closed, rejected, _⟩
  · -- The misspelled field is none that filters may use.
    have shut : mistypedPlan.primary.opens "citty" = false := by decide +kernel
    exact absurd (open_ _ List.mem_cons_self).1 (by simp [shut])
  · exact ⟨entry, member, closed, rejected⟩

/-- The identifier of an owner with an operator that is none. -/
def idleFilter : Filter := ⟨[("id", .map [("$exists", .bool true)])], none⟩

/-- The plan of the query of owners with that filter. -/
def idlePlan : Plan :=
  (petService.registry.plan (ownerQuery idleFilter)).toOption.get (by decide +kernel)

/-- An unknown operator leaves all owners in question, and the answer tells of nothing. -/
theorem Service.unfiltered_untold :
    petService.registry.plan (ownerQuery idleFilter) = .ok idlePlan ∧
    idlePlan.statement.conditions = [] ∧ idlePlan.rejectedFields = [] ∧
    ∃ result, petService.execute (ownerQuery idleFilter) .quiet = .ok result ∧
      result.success = true ∧ result.warnings = [] := by
  -- The only operator of the filter is unknown, so the statement has no condition.
  have planned : petService.registry.plan (ownerQuery idleFilter) = .ok idlePlan := eq_ok_get _
  refine ⟨planned, by decide +kernel, by decide +kernel, ?_⟩
  rw [execute_eq_answerInOrder planned (by decide +kernel)]
  exact ⟨_, eq_ok_get (by decide +kernel), by decide +kernel⟩

end Joinery
