import Joinery.Plan.Basic
import Joinery.Proofs.Outcome

/-! A plan is put together from parts, each of which succeeded on its own. -/

namespace Joinery

/-- Everything that is worked out before a plan is put together. -/
structure Planning (registry : Registry) (query : Query) where
  /-- The filter on the primary entity. -/
  filter : Filter
  /-- The primary entity. -/
  primary : EntitySchema
  /-- The joins in order. -/
  order : JoinOrder
  /-- What the joins add to the statement. -/
  joins : PlannedJoins
  /-- What the filter on the primary entity adds to the statement. -/
  main : PlannedFilter
  /-- The cap on joined rows. -/
  rowLimit : Value
  /-- The whole number of that cap. -/
  cap : Int
  /-- The primary entity is named. -/
  named : query.primary.truthy = true
  /-- There is a filter that says something. -/
  filtered : query.requiredFilter = .ok filter
  /-- The registry has the primary entity. -/
  required : registry.require query.primary = .ok primary
  /-- The requests have an order. -/
  ordered : JoinOrder.ofRequests registry primary query.related = .ok order
  /-- The joins are planned in that order. -/
  joined : planJoins registry order.steps 0 order.steps = .ok joins
  /-- The filter is planned after the joins. -/
  narrowed : planFilter primary joins.parameters.length (some filter) = .ok main
  /-- The cap is a whole number. -/
  capped : query.plannedCap registry = .ok (rowLimit, cap)

variable {registry : Registry} {query : Query}

/-- The plan that the parts make. -/
def Planning.plan (parts : Planning registry query) : Plan where
  statement := {
    columns := plannedColumns parts.primary parts.order.steps
    table := parts.primary.tableName
    joins := parts.joins.joins
    conditions := parts.main.predicates
    order := plannedOrder parts.primary parts.order.steps
    cap := parts.cap
  }
  parameters := parts.joins.parameters ++ parts.main.parameters
  primary := parts.primary
  related := parts.order.steps.map (·.entity)
  rowLimit := parts.rowLimit
  warnings := parts.order.warnings parts.primary
  rejectedFields := parts.joins.rejected ++ parts.main.rejected
  selectedEntities := query.selectedEntities.map lowered
  selectedFields := .ofPairs (query.selectedFields.map fun (key, fields) =>
    (lowered key, fields.map lowered))

/-- Every plan of a query is made of such parts. -/
theorem Registry.plan_ok {plan : Plan} (planned : registry.plan query = .ok plan) :
    ∃ parts : Planning registry query, parts.plan = plan := by
  -- Planning is a chain of steps that all have to succeed.
  simp only [Registry.plan] at planned
  split at planned
  · contradiction
  · rename_i named
    obtain ⟨filter, filtered, planned⟩ := bind_eq_ok.mp planned
    obtain ⟨primary, required, planned⟩ := bind_eq_ok.mp planned
    obtain ⟨order, ordered, planned⟩ := bind_eq_ok.mp planned
    obtain ⟨joins, joined, planned⟩ := bind_eq_ok.mp planned
    obtain ⟨main, narrowed, planned⟩ := bind_eq_ok.mp planned
    obtain ⟨⟨rowLimit, cap⟩, capped, planned⟩ := bind_eq_ok.mp planned
    cases planned
    exact ⟨⟨filter, primary, order, joins, main, rowLimit, cap, by simpa using named, filtered,
      required, ordered, joined, narrowed, mapError_eq_ok.mp capped⟩, rfl⟩

/-- The plan that parts make is the plan of the query. -/
theorem Planning.planned (parts : Planning registry query) :
    registry.plan query = .ok parts.plan := by
  -- Every step of planning finds the part that it looks for.
  have capped : (query.plannedCap registry).mapError PlanFault.misuse =
      .ok (parts.rowLimit, parts.cap) := mapError_eq_ok.mpr parts.capped
  simp only [Registry.plan, parts.named, Bool.not_true, Bool.false_eq_true, if_false]
  refine bind_eq_ok.mpr ⟨_, parts.filtered, bind_eq_ok.mpr ⟨_, parts.required, ?_⟩⟩
  refine bind_eq_ok.mpr ⟨_, parts.ordered, bind_eq_ok.mpr ⟨_, parts.joined, ?_⟩⟩
  exact bind_eq_ok.mpr ⟨_, parts.narrowed, bind_eq_ok.mpr ⟨_, capped, rfl⟩⟩

/-- A required filter is the filter of the query. -/
theorem Query.requiredFilter_ok {filter : Filter} (required : query.requiredFilter = .ok filter) :
    query.filter = some filter := by
  -- A missing filter and one that says nothing are refused.
  simp only [Query.requiredFilter] at required
  cases given : query.filter with
  | none => simp [given] at required
  | some candidate =>
    simp only [given] at required
    split at required
    · contradiction
    · cases required
      rfl

/-- Related filters that say something together are required alike. -/
theorem Query.requiredFilter_related {other : Query} {R : Filter → Filter → Prop}
    (empty : ∀ filter changed, R filter changed → changed.isEmpty = filter.isEmpty)
    (filters : Option.Rel R query.filter other.filter) :
    SameOutcome R query.requiredFilter other.requiredFilter := by
  -- A filter is there in both or in neither, and it is empty in both or in neither.
  rw [requiredFilter, requiredFilter]
  generalize query.filter = first, other.filter = second at filters
  cases filters with
  | none => exact .fault _
  | some same =>
    dsimp only
    rw [empty _ _ same]
    split
    · exact .fault _
    · exact .success same

/-- A join is one with the table of its entity. -/
@[simp] theorem planJoin_table (registry : Registry) (steps : List JoinStep) (step : JoinStep)
    (predicates : List Predicate) :
    (planJoin registry steps step predicates).table = step.entity.tableName := by
  -- With a cap and without one the table is that of the entity.
  unfold planJoin
  split <;> rfl

/-- A ranking goes by the key of its join, in the order of its entity. -/
theorem planJoin_ranking (registry : Registry) (steps : List JoinStep) (step : JoinStep)
    (predicates : List Predicate) : ∀ ranking ∈ (planJoin registry steps step predicates).ranking,
      ranking.key = (joinKeys step.parent step.entity).child ∧
        ranking.order = step.entity.defaultOrderBy := by
  -- There is a ranking only with a cap, and it is made with that key and that order.
  intro ranking given
  unfold planJoin at given
  split at given
  · contradiction
  · cases given
    exact ⟨rfl, rfl⟩

/-- A join compares with the joining field of its parent's source, capped or not. -/
@[simp] theorem planJoin_parent (registry : Registry) (steps : List JoinStep) (step : JoinStep)
    (predicates : List Predicate) :
    (planJoin registry steps step predicates).parent =
      ⟨sourceOf steps step.parent, (joinKeys step.parent step.entity).parent⟩ := by
  -- Only the rows that a join can match depend on the cap.
  simp only [planJoin]
  split <;> rfl

/-- The key of a join is the joining field of its own entity, capped or not. -/
@[simp] theorem planJoin_key (registry : Registry) (steps : List JoinStep) (step : JoinStep)
    (predicates : List Predicate) :
    (planJoin registry steps step predicates).key = (joinKeys step.parent step.entity).child := by
  -- A ranking goes by the same key.
  simp only [planJoin]
  split <;> rfl

/-- The predicates of a planned join are those that it was planned with. -/
@[simp] theorem planJoin_predicates (registry : Registry) (all : List JoinStep) (step : JoinStep)
    (predicates : List Predicate) :
    (planJoin registry all step predicates).predicates = predicates := by
  -- With a cap they stand inside the ranking, and without one beside the keys.
  rw [planJoin]
  cases registry.entityLimit step.filter with
  | none => rfl
  | some cap => exact List.append_nil predicates

/-- The first join is planned and its cap is written before the others, which bind behind its values. -/
theorem planJoins_cons_ok {all rest : List JoinStep} {step : JoinStep} {place : Nat}
    {planned : PlannedJoins} (built : planJoins registry all place (step :: rest) = .ok planned) :
    ∃ filter others, planFilter step.entity place step.filter = .ok filter ∧
      registry.checkEntityLimit step.filter = .ok () ∧
      planJoins registry all (place + filter.parameters.length) rest = .ok others ∧
      planned = ⟨planJoin registry all step filter.predicates :: others.joins,
        filter.parameters ++ others.parameters, filter.rejected ++ others.rejected⟩ := by
  -- The filter is planned, then the cap is checked, then the other joins are planned.
  obtain ⟨filter, narrowed, built⟩ := bind_eq_ok.mp built
  obtain ⟨_, written, built⟩ := bind_eq_ok.mp built
  obtain ⟨others, later, same⟩ := bind_eq_ok.mp built
  exact ⟨filter, others, narrowed, mapError_eq_ok.mp written, later, (Except.ok.inj same).symm⟩

/-- Joins are planned one for one, and each binds its values behind those of the joins before it. -/
theorem planJoins_ok {all steps : List JoinStep} {place : Nat} {planned : PlannedJoins}
    (built : planJoins registry all place steps = .ok planned) :
    planned.joins.length = steps.length ∧
      ∀ (i : Nat) (step : JoinStep), steps[i]? = some step → ∃ filter before after,
        planFilter step.entity (place + before.length) step.filter = .ok filter ∧
          planned.joins[i]? = some (planJoin registry all step filter.predicates) ∧
          planned.parameters = before ++ filter.parameters ++ after := by
  -- The values of the first join come first, and the others count on from there.
  induction steps generalizing place planned with
  | nil =>
    cases built
    exact ⟨rfl, by simp⟩
  | cons first rest ih =>
    obtain ⟨filter, others, narrowed, _, later, rfl⟩ := planJoins_cons_ok built
    obtain ⟨length, origins⟩ := ih later
    refine ⟨by simp [length], fun i step at_ => ?_⟩
    cases i with
    | zero =>
      simp only [List.getElem?_cons_zero, Option.some.injEq] at at_
      subst at_
      exact ⟨filter, [], others.parameters, by simpa using narrowed, rfl, rfl⟩
    | succ i =>
      rw [List.getElem?_cons_succ] at at_
      obtain ⟨own, before, after, planned, found, values⟩ := origins i step at_
      refine ⟨own, filter.parameters ++ before, after, ?_, found, by simp [values]⟩
      simpa [Nat.add_assoc] using planned

end Joinery
