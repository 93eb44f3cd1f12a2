import Joinery.Plan.Basic
import Joinery.Proofs.Outcome

/-! Requests that differ in their filters only are joined in one order, to the same parents. -/

namespace Joinery

/-- How the filters that two queries have for an entity are related. -/
abbrev FilterRelation := EntitySchema → Option Filter → Option Filter → Prop

/-- A step of one order beside a step of another one: only their filters differ. -/
structure JoinStep.Refiltered (filters : FilterRelation) (step other : JoinStep) : Prop where
  /-- Both join one entity. -/
  entity : other.entity = step.entity
  /-- They join it to one parent. -/
  parent : other.parent = step.parent
  /-- The filters are related for that entity. -/
  filter : filters step.entity step.filter other.filter

/-- A request of one query beside a request of another one: only their filters differ. -/
structure RelatedRequest.Refiltered (registry : Registry) (filters : FilterRelation)
    (request other : RelatedRequest) : Prop where
  /-- Both ask for one entity. -/
  entity : other.entity = request.entity
  /-- They name one parent. -/
  parent : other.parent = request.parent
  /-- The filters are related for the entity that is found. -/
  filter : ∀ entity, registry.require request.entity = .ok entity →
    filters entity request.filter other.filter

variable {registry : Registry} {primary : EntitySchema} {filters : FilterRelation}
  {steps others : List JoinStep}

/-- Steps that differ in their filters only join the same entities. -/
theorem refiltered_entities (refiltered : List.Forall₂ (JoinStep.Refiltered filters) steps others) :
    others.map (·.entity) = steps.map (·.entity) := by
  -- Each pair of steps has one entity.
  induction refiltered with
  | nil => rfl
  | cons head _ ih => rw [List.map_cons, List.map_cons, ih, head.entity]

/-- What is read off the entities of the steps only is the same for both. -/
theorem refiltered_map_eq {α : Type} (read : EntitySchema → α)
    (refiltered : List.Forall₂ (JoinStep.Refiltered filters) steps others) :
    (others.map fun step => read step.entity) = steps.map fun step => read step.entity := by
  -- What is read is read off the same entities.
  have entities := congrArg (List.map read) (refiltered_entities refiltered)
  rwa [List.map_map, List.map_map] at entities

/-- So is what is read off the entities and their places. -/
theorem refiltered_mapIdx_eq {α : Type} (read : Nat → EntitySchema → α)
    (refiltered : List.Forall₂ (JoinStep.Refiltered filters) steps others) :
    (others.mapIdx fun position step => read position step.entity) =
      steps.mapIdx fun position step => read position step.entity := by
  -- At each position the same entity is read.
  refine List.ext_getElem? fun position => ?_
  have found := congrArg (·[position]?) (refiltered_map_eq (read position) refiltered)
  rw [List.getElem?_mapIdx, List.getElem?_mapIdx]
  simpa only [List.getElem?_map] using found

/-- Requests are resolved alike, whatever their filters are. -/
theorem resolveRequests_refiltered {seen : List String} {requests asked : List RelatedRequest}
    (refiltered : List.Forall₂ (RelatedRequest.Refiltered registry filters) requests asked) :
    SameOutcome (List.Forall₂ (JoinStep.Refiltered filters))
      (resolveRequests registry primary seen requests)
      (resolveRequests registry primary seen asked) := by
  -- Names alone decide what is found and whether it was seen before.
  induction refiltered generalizing seen with
  | nil => exact .success .nil
  | @cons request other rest more head _ ih =>
    rw [resolveRequests, resolveRequests, head.entity, head.parent]
    cases found : registry.require request.entity with
    | error fault => exact .fault fault
    | ok entity =>
      have joined (parent : EntitySchema) : SameOutcome (List.Forall₂ (JoinStep.Refiltered filters))
          (resolveRequests registry primary (entity.key :: seen) rest >>= fun later =>
            pure (⟨entity, parent, request.filter⟩ :: later))
          (resolveRequests registry primary (entity.key :: seen) more >>= fun later =>
            pure (⟨entity, parent, other.filter⟩ :: later)) :=
        ih.bind fun _ _ later => .success (.cons ⟨rfl, rfl, head.filter entity found⟩ later)
      change SameOutcome _ (ite _ _ _) (ite _ _ _)
      split
      · exact .fault _
      · dsimp only
        split
        · exact (SameOutcome.refl _).bind fun parent _ same => same ▸ joined parent
        · exact joined primary

/-- Whether a step is ready does not depend on its filter. -/
theorem JoinStep.Refiltered.isReady {step other : JoinStep} (refiltered : Refiltered filters step other)
    (joined : List String) : other.isReady joined = step.isReady joined := by
  rw [JoinStep.isReady, JoinStep.isReady, refiltered.parent]

/-- The same steps are ready. -/
theorem readySteps_refiltered (joined : List String)
    (refiltered : List.Forall₂ (JoinStep.Refiltered filters) steps others) :
    List.Forall₂ (JoinStep.Refiltered filters) (readySteps joined steps)
      (readySteps joined others) := by
  -- Being ready is told by the parent.
  refine List.rel_filter (fun step other same => ?_) refiltered
  exact iff_of_eq (congrArg (· = true) (same.isReady joined).symm)

/-- The same steps are waiting. -/
theorem waitingSteps_refiltered (joined : List String)
    (refiltered : List.Forall₂ (JoinStep.Refiltered filters) steps others) :
    List.Forall₂ (JoinStep.Refiltered filters) (waitingSteps joined steps)
      (waitingSteps joined others) := by
  -- Being ready is told by the parent.
  refine List.rel_filter (fun step other same => ?_) refiltered
  exact iff_of_eq (congrArg (fun ready => (!ready) = true) (same.isReady joined).symm)

/-- The same parents are given to what no chain leads to. -/
theorem joinRemaining_refiltered (joined : List String)
    (refiltered : List.Forall₂ (JoinStep.Refiltered filters) steps others) :
    List.Forall₂ (JoinStep.Refiltered filters) (joinRemaining primary joined steps)
      (joinRemaining primary joined others) := by
  -- A step that is ready keeps its parent, and any other is given the primary entity.
  induction refiltered generalizing joined with
  | nil => exact .nil
  | @cons step other _ _ head _ ih =>
    rw [joinRemaining, joinRemaining, head.isReady]
    refine .cons ?_ ?_
    · split
      · exact head
      · exact ⟨head.entity, rfl, head.filter⟩
    · rw [head.entity]
      exact ih _

/-- Two orders that differ in the filters of their steps only. -/
structure JoinOrder.Refiltered (filters : FilterRelation) (order other : JoinOrder) : Prop where
  /-- The steps are the same but for their filters. -/
  steps : List.Forall₂ (JoinStep.Refiltered filters) order.steps other.steps
  /-- So are those that no chain leads to. -/
  unreachable : List.Forall₂ (JoinStep.Refiltered filters) order.unreachable other.unreachable

/-- Layer by layer the same joins come. -/
theorem joinLayers_refiltered (joined : List String)
    (refiltered : List.Forall₂ (JoinStep.Refiltered filters) steps others) :
    (joinLayers primary joined steps).Refiltered filters (joinLayers primary joined others) := by
  -- Both go through the same rounds, with the same steps ready in each of them.
  revert others
  induction joined, steps using joinLayers.induct primary with
  | case1 joined steps stuck =>
    intro others refiltered
    have ready := readySteps_refiltered joined refiltered
    rw [stuck, List.forall₂_nil_left_iff] at ready
    rw [joinLayers, dif_pos stuck, joinLayers, dif_pos ready]
    exact ⟨joinRemaining_refiltered joined refiltered, refiltered⟩
  | case2 joined steps occupied layer =>
    rename_i ih
    intro others refiltered
    have ready := readySteps_refiltered joined refiltered
    have rest := ih (waitingSteps_refiltered joined refiltered)
    have keys := refiltered_map_eq EntitySchema.key ready
    have busy : readySteps joined others ≠ [] := by
      intro none
      rw [none, List.forall₂_nil_right_iff] at ready
      exact occupied ready
    rw [joinLayers, dif_neg occupied, joinLayers, dif_neg busy]
    dsimp only
    rw [keys]
    exact ⟨List.rel_append ready rest.steps, rest.unreachable⟩

/-- The first step whose parent is of some kind is the same but for its filter. -/
theorem find?_refiltered (chosen : EntitySchema → Bool)
    (refiltered : List.Forall₂ (JoinStep.Refiltered filters) steps others) :
    Option.Rel (JoinStep.Refiltered filters) (steps.find? fun step => chosen step.parent)
      (others.find? fun step => chosen step.parent) := by
  -- The first pair whose parents are of the kind is found in both lists.
  induction refiltered with
  | nil => exact .none
  | cons head _ ih =>
    rw [List.find?_cons, List.find?_cons, head.parent]
    split
    · exact .some head
    · exact ih

/-- The same entities are part of the query. -/
theorem isPresent_refiltered (refiltered : List.Forall₂ (JoinStep.Refiltered filters) steps others) :
    isPresent primary others = isPresent primary steps := by
  -- An entity is present when some step joins it.
  funext entity
  have read (joins : List JoinStep) : joins.any (·.entity.key == entity.key) =
      (joins.map (·.entity.key)).any (· == entity.key) := by
    rw [List.any_map]
    rfl
  rw [isPresent, isPresent, read, read, refiltered_map_eq EntitySchema.key refiltered]

/-- Resolved requests are put in the same order, or refused for one stray parent. -/
theorem orderResolved_refiltered
    (refiltered : List.Forall₂ (JoinStep.Refiltered filters) steps others) :
    SameOutcome (JoinOrder.Refiltered filters)
      (match steps.find? fun step => !isPresent primary steps step.parent with
        | some step => Except.error (PlanFault.rejected (.strayParent step.parent.name step.entity.name))
        | none => return joinLayers primary [primary.key] steps)
      (match others.find? fun step => !isPresent primary others step.parent with
        | some step => .error (.rejected (.strayParent step.parent.name step.entity.name))
        | none => return joinLayers primary [primary.key] others) := by
  -- A stray parent is found in both or in neither, and it is the same one.
  rw [isPresent_refiltered refiltered]
  have stray := find?_refiltered (fun parent => !isPresent primary steps parent) refiltered
  generalize (steps.find? fun step => !isPresent primary steps step.parent) = first at stray ⊢
  generalize (others.find? fun step => !isPresent primary steps step.parent) = second at stray ⊢
  cases stray with
  | none => exact .success (joinLayers_refiltered [primary.key] refiltered)
  | some head =>
    dsimp only
    rw [head.parent, head.entity]
    exact .fault _

/-- Requests that differ in their filters only are put in the same order, or refused alike. -/
theorem JoinOrder.ofRequests_refiltered {requests asked : List RelatedRequest}
    (refiltered : List.Forall₂ (RelatedRequest.Refiltered registry filters) requests asked) :
    SameOutcome (JoinOrder.Refiltered filters) (ofRequests registry primary requests)
      (ofRequests registry primary asked) :=
  -- Requests are resolved alike, and resolved steps are ordered alike.
  (resolveRequests_refiltered refiltered).bind fun _ _ same => orderResolved_refiltered same

/-- The warnings name entities only. -/
theorem JoinOrder.Refiltered.warnings {order other : JoinOrder}
    (refiltered : order.Refiltered filters other) (primary : EntitySchema) :
    other.warnings primary = order.warnings primary := by
  -- The names are those of the entities that cannot be reached, and there are some in both or in neither.
  have names := refiltered_map_eq EntitySchema.name refiltered.unreachable
  have empty : other.unreachable.isEmpty = order.unreachable.isEmpty := by
    rw [Bool.eq_iff_iff, List.isEmpty_iff_length_eq_zero, List.isEmpty_iff_length_eq_zero,
      refiltered.unreachable.length_eq]
  have told : circularWarning primary other.unreachable =
      circularWarning primary order.unreachable := by
    unfold circularWarning
    dsimp only
    rw [names]
  rw [JoinOrder.warnings, JoinOrder.warnings, empty, told]

/-- The sources are numbered alike. -/
theorem sourceOf_refiltered (refiltered : List.Forall₂ (JoinStep.Refiltered filters) steps others) :
    sourceOf others = sourceOf steps := by
  -- A source is searched by its key alone.
  funext entity
  have keys := refiltered_map_eq EntitySchema.key refiltered
  have numbered (joins : List JoinStep) : joins.findIdx? (·.entity.key == entity.key) =
      (joins.map (·.entity.key)).findIdx? (· == entity.key) := by
    rw [List.findIdx?_map]
    rfl
  rw [sourceOf, sourceOf, numbered, numbered, keys]

/-- A join is the same where the filters of its step have one cap. -/
theorem planJoin_refiltered {step other : JoinStep} (head : step.Refiltered filters other)
    (refiltered : List.Forall₂ (JoinStep.Refiltered filters) steps others)
    (cap : registry.entityLimit other.filter = registry.entityLimit step.filter)
    (predicates : List Predicate) :
    planJoin registry others other predicates = planJoin registry steps step predicates := by
  -- A join is made of the entities, the cap and the source of the parent.
  rw [planJoin, planJoin, head.entity, head.parent, cap, sourceOf_refiltered refiltered]

/-- The columns are those of the entities. -/
theorem plannedColumns_refiltered
    (refiltered : List.Forall₂ (JoinStep.Refiltered filters) steps others) :
    plannedColumns primary others = plannedColumns primary steps := by
  -- At each position the same columns are selected.
  have columns := refiltered_mapIdx_eq (fun position => selectedColumns (position + 1)) refiltered
  rw [plannedColumns, plannedColumns, columns]

/-- The rows are sorted by the identifiers of the entities. -/
theorem plannedOrder_refiltered
    (refiltered : List.Forall₂ (JoinStep.Refiltered filters) steps others) :
    plannedOrder primary others = plannedOrder primary steps := by
  -- At each position there is the same identifier.
  have columns := refiltered_mapIdx_eq
    (fun position entity => (⟨position + 1, entity.identifierField⟩ : ColumnRef)) refiltered
  rw [plannedOrder, plannedOrder, columns]

end Joinery
