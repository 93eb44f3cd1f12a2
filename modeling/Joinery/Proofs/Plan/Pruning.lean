import Joinery.Proofs.Filter.Pruning
import Joinery.Proofs.Plan.Layering
import Joinery.Proofs.Plan.Parts
import Joinery.Proofs.Plan.Refiltering

/-! A query is planned as if what it says under keys that are not open to filters were deleted. -/

namespace Joinery

/-- The filter on an entity of the given name, without the keys that the entity does not open. -/
def Registry.prune (registry : Registry) (name : Value) (filter : Option Filter) : Option Filter :=
  match registry.require name with
  | .error _ => filter
  | .ok entity => filter.map entity.prune

/-- A query without the keys that their entities do not open to filters. -/
def Query.pruned (registry : Registry) (query : Query) : Query :=
  { query with
    filter := registry.prune query.primary query.filter
    related := query.related.map fun request =>
      { request with filter := registry.prune request.entity request.filter } }

/-- One filter is the other one without the keys that the entity does not open. -/
def PrunedFilters : FilterRelation :=
  fun entity filter other => other = filter.map entity.prune

variable {registry : Registry} {query : Query}

/-- A pruned query differs from the whole one in its filters only. -/
theorem Query.pruned_refiltered (registry : Registry) (query : Query) :
    List.Forall₂ (RelatedRequest.Refiltered registry PrunedFilters) query.related
      (query.pruned registry).related := by
  -- Pruning goes through the requests one by one.
  rw [Query.pruned, List.forall₂_map_right_iff, List.forall₂_same]
  intro request _
  refine ⟨rfl, rfl, fun entity found => ?_⟩
  simp only [PrunedFilters, Registry.prune, found]

/-- The primary filter of a pruned query is the pruned one, where it says something. -/
theorem Query.requiredFilter_pruned {primary : EntitySchema}
    (found : registry.require query.primary = .ok primary)
    (nonempty : ∀ filter, (query.pruned registry).filter = some filter → filter.isEmpty = false) :
    SameOutcome (fun filter other => other = primary.prune filter) query.requiredFilter
      (query.pruned registry).requiredFilter := by
  have pruned : (query.pruned registry).filter = query.filter.map primary.prune := by
    simp only [Query.pruned, Registry.prune, found]
  rw [pruned] at nonempty
  rw [Query.requiredFilter, Query.requiredFilter, pruned]
  cases given : query.filter with
  | none => exact .fault _
  | some filter =>
    rw [given] at nonempty
    have said : (primary.prune filter).isEmpty = false := nonempty _ rfl
    -- A filter that still says something said something before.
    have whole : filter.isEmpty = false := by
      rw [Filter.isEmpty, List.isEmpty_eq_false_iff] at said ⊢
      intro none
      exact said (by simp [EntitySchema.prune, none])
    dsimp only [Option.map_some]
    rw [whole, said]
    exact .success rfl

/-- Joins are planned alike for pruned filters, with nothing left out. -/
theorem planJoins_pruned {all others steps more : List JoinStep} {place : Nat}
    (whole : List.Forall₂ (JoinStep.Refiltered PrunedFilters) all others)
    (same : List.Forall₂ (JoinStep.Refiltered PrunedFilters) steps more) :
    SameOutcome (fun planned other => other = { planned with rejected := [] })
      (planJoins registry all place steps) (planJoins registry others place more) := by
  -- Every join binds the same values, so that the next one begins at the same place.
  induction same generalizing place with
  | nil => exact .success rfl
  | @cons step other rest after head _ ih =>
    have cap : registry.entityLimit other.filter = registry.entityLimit step.filter := by
      rw [head.filter]
      cases step.filter <;> rfl
    have pruned : planFilter other.entity place other.filter =
        (planFilter step.entity place step.filter).map ({ · with rejected := [] }) := by
      rw [head.entity, head.filter]
      exact planFilter_pruned step.entity place step.filter
    have written : registry.checkEntityLimit other.filter = registry.checkEntityLimit step.filter := by
      rw [Registry.checkEntityLimit, Registry.checkEntityLimit, cap]
    rw [planJoins, planJoins, pruned, written]
    cases planFilter step.entity place step.filter with
    | error fault => exact .fault fault
    | ok filter =>
      refine (SameOutcome.refl _).bind fun _ _ _ => ih.bind fun planned paired later => .success ?_
      have join : planJoin registry others other filter.predicates =
          planJoin registry all step filter.predicates := planJoin_refiltered head whole cap _
      rw [join, later]
      rfl

/-- Planning joins leaves out exactly the keys that pruning deletes, join by join. -/
theorem planJoins_rejected {all steps : List JoinStep} {place : Nat} {planned : PlannedJoins}
    (built : planJoins registry all place steps = .ok planned) :
    planned.rejected = steps.flatMap fun step => step.entity.closedKeys step.filter := by
  -- The keys of the first join are told before those of the others.
  induction steps generalizing place planned with
  | nil =>
    cases built
    rfl
  | cons step rest ih =>
    obtain ⟨filter, others, narrowed, _, later, rfl⟩ := planJoins_cons_ok built
    rw [List.flatMap_cons, ← planFilter_rejected narrowed, ← ih later]

/-- The predicates of every planned join are on fields that its entity opens to filters. -/
theorem planJoins_columns {all steps : List JoinStep} {place : Nat} {planned : PlannedJoins}
    (built : planJoins registry all place steps = .ok planned) :
    List.Forall₂ (fun step join => ∀ predicate ∈ join.predicates,
      predicate.column ∈ step.entity.allowedFilterFields) steps planned.joins := by
  -- Each join has the predicates of the filter of its own step.
  induction steps generalizing place planned with
  | nil =>
    cases built
    exact .nil
  | cons step rest ih =>
    obtain ⟨filter, others, narrowed, _, later, rfl⟩ := planJoins_cons_ok built
    refine .cons ?_ (ih later)
    rw [planJoin_predicates]
    exact planFilter_columns narrowed

/--
What a query says under keys that are not open to filters has no part in its plan.

It is only told which keys these are: those of the joined entities in order, then those of the
primary one. All predicates are on fields that their entities open to filters.
-/
theorem Registry.plan_pruned (registry : Registry) (query : Query) :
    ((∀ filter, (query.pruned registry).filter = some filter → filter.isEmpty = false) →
      registry.plan (query.pruned registry) =
        (registry.plan query).map fun plan => { plan with rejectedFields := [] }) ∧
    ∀ plan, registry.plan query = .ok plan →
      (∀ predicate ∈ plan.statement.conditions,
        predicate.column ∈ plan.primary.allowedFilterFields) ∧
      ∃ order, JoinOrder.ofRequests registry plan.primary query.related = .ok order ∧
        plan.related = order.steps.map (·.entity) ∧
        plan.rejectedFields =
          (order.steps.flatMap fun step => step.entity.closedKeys step.filter) ++
            plan.primary.closedKeys query.filter ∧
        List.Forall₂ (fun step join => ∀ predicate ∈ join.predicates,
          predicate.column ∈ step.entity.allowedFilterFields) order.steps plan.statement.joins := by
  refine ⟨fun nonempty => ?_, fun plan planned => ?_⟩
  -- Both plans go through the same steps, and only what they tell of left out keys differs.
  · refine SameOutcome.eq_map ?_
    have primary : (query.pruned registry).primary = query.primary := rfl
    rw [Registry.plan, Registry.plan, primary]
    by_cases unnamed : (!query.primary.truthy) = true
    · rw [if_pos unnamed, if_pos unnamed]
      exact .fault _
    rw [if_neg unnamed, if_neg unnamed]
    cases found : registry.require query.primary with
    -- Without the primary entity nothing is pruned, and both fail alike.
    | error fault =>
      have same : (query.pruned registry).requiredFilter = query.requiredFilter := by
        simp only [Query.requiredFilter, Query.pruned, Registry.prune, found]
      rw [same]
      exact (SameOutcome.refl _).bind fun filter _ _ => .fault fault
    | ok primary =>
      refine (Query.requiredFilter_pruned found nonempty).bind fun filter other pruned => ?_
      refine (JoinOrder.ofRequests_refiltered (query.pruned_refiltered registry)).bind
        fun order ordered same => ?_
      refine (planJoins_pruned same.steps same.steps).bind fun joins paired alike => ?_
      subst pruned alike
      have narrowed : planFilter primary joins.parameters.length (some (primary.prune filter)) =
          (planFilter primary joins.parameters.length (some filter)).map ({ · with rejected := [] }) :=
        planFilter_pruned primary joins.parameters.length (some filter)
      dsimp only
      rw [narrowed]
      -- Both filters are planned alike, and then the cap is.
      cases planFilter primary joins.parameters.length (some filter) with
      | error fault => exact .fault fault
      | ok main =>
        refine (SameOutcome.refl _).bind fun cap _ caps => .success ?_
        subst caps
        simp only [plannedColumns_refiltered same.steps, plannedOrder_refiltered same.steps,
          refiltered_entities same.steps, same.warnings, Query.pruned, List.append_nil]
  -- The plan tells of the rejected keys of each of its filters, in their order.
  · obtain ⟨parts, rfl⟩ := Registry.plan_ok planned
    refine ⟨planFilter_columns parts.narrowed, parts.order, parts.ordered, rfl, ?_,
      planJoins_columns parts.joined⟩
    rw [Query.requiredFilter_ok parts.filtered, ← planJoins_rejected parts.joined]
    exact congrArg _ (planFilter_rejected parts.narrowed)

/-- A query below A with keys that are not open, and values under them that no filter may have. -/
def closedKinQuery : Query where
  primary := .text "A"
  filter := some ⟨[("salary", .map [("$in", .map [])]), ("ID", .text "1"), ("Name", .list [.list []])],
    none⟩
  related := [⟨.text "C", some ⟨[("id", .map [("$in", .text "x")]), ("name", .map [])], some 2⟩, .text "B"⟩,
    ⟨.text "B", some ⟨[("salary", .decimal (.ofInt 1))], none⟩, .null⟩]
  selectedEntities := []
  selectedFields := []
  maxRows := .null

/-- Something is left of its primary filter, it is planned as if the keys were deleted, and they are told. -/
theorem closedKinQuery_pruned :
    (∀ filter, (closedKinQuery.pruned kinRegistry).filter = some filter → filter.isEmpty = false) ∧
    kinRegistry.plan (closedKinQuery.pruned kinRegistry) =
      (kinRegistry.plan closedKinQuery).map (fun plan => { plan with rejectedFields := [] }) ∧
    (kinRegistry.plan closedKinQuery).toOption.map Plan.rejectedFields =
      some ["B.salary", "C.name", "A.salary", "A.Name"] := by
  -- What is left of the primary filter is known.
  have nonempty : ∀ filter, (closedKinQuery.pruned kinRegistry).filter = some filter →
      filter.isEmpty = false := by
    intro filter kept
    cases kept
    rfl
  exact ⟨nonempty, (Registry.plan_pruned kinRegistry closedKinQuery).1 nonempty, by decide +kernel⟩

end Joinery
