import Joinery.Proofs.Plan.Parts
import Joinery.Proofs.Query.Projecting

/-! What a query keeps of its result goes into the plan at the end, and decides nothing before. -/

namespace Joinery

/-- The plan that keeps of its result what a query does. -/
def Plan.keeping (plan : Plan) (query : Query) : Plan :=
  { plan with
    selectedEntities := query.selectedEntities.map lowered
    selectedFields := .ofPairs (query.selectedFields.map fun (key, fields) =>
      (lowered key, fields.map lowered)) }

/-- A query is planned like the one that keeps everything, or refused like it. -/
theorem Registry.plan_whole (registry : Registry) (query : Query) :
    registry.plan query = (registry.plan query.whole).map (·.keeping query) := by
  refine SameOutcome.eq_map ?_
  unfold plan
  -- Every step of planning reads the same of both queries; what is kept only goes into the plan.
  change SameOutcome _ (if !query.primary.truthy then _ else _) (if !query.primary.truthy then _ else _)
  split
  · exact .fault _
  · refine (SameOutcome.refl query.requiredFilter).bind fun filter _ same => ?_
    cases same
    refine (SameOutcome.refl (registry.require query.primary)).bind fun primary _ same => ?_
    cases same
    refine (SameOutcome.refl (JoinOrder.ofRequests registry primary query.related)).bind ?_
    rintro order _ rfl
    refine (SameOutcome.refl (planJoins registry order.steps 0 order.steps)).bind ?_
    rintro joins _ rfl
    refine (SameOutcome.refl (planFilter primary joins.parameters.length (some filter))).bind ?_
    rintro main _ rfl
    refine (SameOutcome.refl ((query.plannedCap registry).mapError PlanFault.misuse)).bind ?_
    rintro _ _ rfl
    exact .success rfl

/-- The plan of a query that keeps everything does so. -/
theorem Registry.plan_of_whole {registry : Registry} {query : Query} {plan : Plan}
    (planned : registry.plan query.whole = .ok plan) :
    plan.selectedEntities = [] ∧ plan.selectedFields = [] := by
  -- The whole query selects nothing, and planning takes its selections over.
  obtain ⟨parts, rfl⟩ := Registry.plan_ok planned
  exact ⟨rfl, rfl⟩

end Joinery
