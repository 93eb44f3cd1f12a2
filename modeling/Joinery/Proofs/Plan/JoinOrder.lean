import Joinery.Plan.Basic
import Joinery.Proofs.Outcome

/-! Joins are ordered so that every entity comes once and after the entity that it hangs from. -/

namespace Joinery

/-- Every step hangs from an entity that is known or that comes earlier. -/
def ParentsFirst : List String → List JoinStep → Prop
  | _, [] => True
  | known, step :: rest =>
    -- The entity of a step is known to all later steps.
    step.parent.key ∈ known ∧ ParentsFirst (step.entity.key :: known) rest

/-- Knowing more entities does not spoil an order. -/
theorem ParentsFirst.mono {known more : List String} {steps : List JoinStep}
    (included : known ⊆ more) (first : ParentsFirst known steps) : ParentsFirst more steps := by
  -- The inclusion is kept when an entity is added on both sides.
  induction steps generalizing known more with
  | nil => trivial
  | cons step rest ih => exact ⟨included first.1, ih (List.cons_subset_cons _ included) first.2⟩

/-- Two ordered lists may follow each other when the second one knows the first. -/
theorem ParentsFirst.append {known : List String} {front back : List JoinStep}
    (first : ParentsFirst known front)
    (second : ParentsFirst (front.map (·.entity.key) ++ known) back) :
    ParentsFirst known (front ++ back) := by
  -- Each step of the front joins what is known to the back.
  induction front generalizing known with
  | nil => exact second
  | cons step rest ih =>
    refine ⟨first.1, ih first.2 (second.mono ?_)⟩
    intro key member
    simp only [List.map_cons, List.cons_append, List.mem_cons, List.mem_append] at member ⊢
    tauto

/-- Steps that all hang from known entities may come in any order. -/
theorem parentsFirst_of_known {known : List String} {steps : List JoinStep}
    (inside : ∀ step ∈ steps, step.parent.key ∈ known) : ParentsFirst known steps := by
  -- What is known stays known.
  induction steps generalizing known with
  | nil => trivial
  | cons step rest ih =>
    refine ⟨inside step (by simp), ih fun other member => ?_⟩
    exact List.mem_cons_of_mem _ (inside other (by simp [member]))

/-- The remaining steps hang from the primary entity where their parent is not joined yet. -/
theorem joinRemaining_parentsFirst {primary : EntitySchema} {joined : List String}
    {pending : List JoinStep} (started : primary.key ∈ joined) :
    ParentsFirst joined (joinRemaining primary joined pending) := by
  -- Either parent is among the joined entities.
  induction pending generalizing joined with
  | nil => trivial
  | cons step rest ih =>
    rw [joinRemaining]
    by_cases ready : step.isReady joined = true
    · rw [if_pos ready]
      exact ⟨by simpa [JoinStep.isReady] using ready, ih (List.mem_cons_of_mem _ started)⟩
    · rw [if_neg ready]
      exact ⟨started, ih (List.mem_cons_of_mem _ started)⟩

/-- Joining layer by layer brings every parent before its children. -/
theorem joinLayers_parentsFirst {primary : EntitySchema} {joined : List String}
    {pending : List JoinStep} (started : primary.key ∈ joined) :
    ParentsFirst joined (joinLayers primary joined pending).steps := by
  -- A layer hangs from what is joined, and the later layers know it.
  induction joined, pending using joinLayers.induct primary with
  | case1 joined pending stuck =>
    rw [joinLayers, dif_pos stuck]
    exact joinRemaining_parentsFirst started
  | case2 joined pending occupied layer ih =>
    rw [joinLayers, dif_neg occupied]
    refine ParentsFirst.append (parentsFirst_of_known ?_) (ih (List.mem_append_right _ started))
    intro step member
    rw [readySteps, List.mem_filter] at member
    simpa [JoinStep.isReady] using member.2

/-- A step may be joined to another parent, but it keeps its entity and its filter. -/
theorem joinRemaining_map {primary : EntitySchema} (joined : List String)
    (pending : List JoinStep) :
    (joinRemaining primary joined pending).map (fun step => (step.entity, step.filter)) =
      pending.map fun step => (step.entity, step.filter) := by
  -- Only the parent differs, step by step.
  induction pending generalizing joined with
  | nil => rfl
  | cons step rest ih =>
    rw [joinRemaining, List.map_cons, List.map_cons, ih]
    split <;> rfl

/-- Ordering loses no request and makes none up. -/
theorem joinLayers_perm (primary : EntitySchema) (joined : List String) (pending : List JoinStep) :
    ((joinLayers primary joined pending).steps.map fun step => (step.entity, step.filter)).Perm
      (pending.map fun step => (step.entity, step.filter)) := by
  -- A layer and what waits for it are the two halves of the pending steps.
  induction joined, pending using joinLayers.induct primary with
  | case1 joined pending stuck =>
    rw [joinLayers, dif_pos stuck, joinRemaining_map]
  | case2 joined pending occupied layer ih =>
    rw [joinLayers, dif_neg occupied, List.map_append]
    refine (ih.append_left _).trans ?_
    rw [← List.map_append]
    exact (List.filter_append_perm _ pending).map _

/-- The parent of an ordered step is the one that was asked for or the primary entity. -/
theorem joinRemaining_parent {primary : EntitySchema} {joined : List String}
    {pending : List JoinStep} {step : JoinStep}
    (member : step ∈ joinRemaining primary joined pending) :
    step.parent = primary ∨ ∃ asked ∈ pending, asked.parent = step.parent := by
  -- A step is kept or joined to the primary entity.
  induction pending generalizing joined with
  | nil => contradiction
  | cons first rest ih =>
    rw [joinRemaining] at member
    rcases List.mem_cons.mp member with same | later
    · split at same
      · exact .inr ⟨first, by simp, by rw [same]⟩
      · exact .inl (by rw [same])
    · rcases ih later with main | ⟨asked, inside, same⟩
      · exact .inl main
      · exact .inr ⟨asked, by simp [inside], same⟩

/-- Every parent in the order is the primary entity or was asked for by some request. -/
theorem joinLayers_parent {primary : EntitySchema} {joined : List String}
    {pending : List JoinStep} {step : JoinStep}
    (member : step ∈ (joinLayers primary joined pending).steps) :
    step.parent = primary ∨ ∃ asked ∈ pending, asked.parent = step.parent := by
  -- Layers keep the parents that were asked for.
  induction joined, pending using joinLayers.induct primary with
  | case1 joined pending stuck =>
    rw [joinLayers, dif_pos stuck] at member
    exact joinRemaining_parent member
  | case2 joined pending occupied layer ih =>
    rw [joinLayers, dif_neg occupied] at member
    rcases List.mem_append.mp member with ready | later
    · exact .inr ⟨step, List.mem_of_mem_filter ready, rfl⟩
    · rcases ih later with main | ⟨asked, inside, same⟩
      · exact .inl main
      · exact .inr ⟨asked, List.mem_of_mem_filter inside, same⟩

/-- What a resolved step has from its request: found entities, and the filter as it is. -/
def JoinStep.FoundFor (registry : Registry) (primary : EntitySchema) (request : RelatedRequest)
    (step : JoinStep) : Prop :=
  registry.require request.entity = .ok step.entity ∧ step.filter = request.filter ∧
    -- A request that names no parent hangs from the primary entity.
    (step.parent = primary ∨ registry.require request.parent = .ok step.parent)

/-- Requests are resolved one for one, and no entity comes twice. -/
theorem resolveRequests_ok {registry : Registry} {primary : EntitySchema} {seen : List String}
    {requests : List RelatedRequest} {steps : List JoinStep}
    (resolved : resolveRequests registry primary seen requests = .ok steps) :
    List.Forall₂ (JoinStep.FoundFor registry primary) requests steps ∧
      (steps.map (·.entity.key)).Nodup ∧ ∀ step ∈ steps, step.entity.key ∉ seen := by
  -- Each round finds one entity that was not seen before.
  induction requests generalizing seen steps with
  | nil =>
    cases resolved
    exact ⟨.nil, List.nodup_nil, by simp⟩
  | cons request rest ih =>
    obtain ⟨entity, found, resolved⟩ := bind_eq_ok.mp resolved
    split at resolved
    · contradiction
    · rename_i unseen
      have unseen : entity.key ∉ seen := by simpa using unseen
      -- The parent is the one that was asked for, or the primary entity.
      obtain ⟨parent, parentOrigin, resolved⟩ : ∃ parent,
          (parent = primary ∨ registry.require request.parent = .ok parent) ∧
            (resolveRequests registry primary (entity.key :: seen) rest >>= fun others =>
              pure (⟨entity, parent, request.filter⟩ :: others)) = .ok steps := by
        dsimp only at resolved
        split at resolved
        · obtain ⟨parent, found, resolved⟩ := bind_eq_ok.mp resolved
          exact ⟨parent, .inr found, resolved⟩
        · exact ⟨primary, .inl rfl, resolved⟩
      obtain ⟨others, later, same⟩ := bind_eq_ok.mp resolved
      cases same
      obtain ⟨aligned, distinct, fresh⟩ := ih later
      -- Its key is new, and the keys of the rest are new beside it.
      refine ⟨.cons ⟨found, rfl, parentOrigin⟩ aligned, ?_, ?_⟩
      · rw [List.map_cons, List.nodup_cons]
        refine ⟨fun repeated => ?_, distinct⟩
        obtain ⟨step, member, same⟩ := List.mem_map.mp repeated
        exact fresh step member (same ▸ List.mem_cons_self)
      · intro step member
        rcases List.mem_cons.mp member with same | later
        · cases same
          exact unseen
        · exact fun inside => fresh step later (List.mem_cons_of_mem _ inside)

/-- The joins of a query in an order that can be carried out. -/
structure JoinOrder.Sound (registry : Registry) (primary : EntitySchema)
    (requests : List RelatedRequest) (steps : List JoinStep) : Prop where
  /-- No entity comes twice, and the primary one does not come again. -/
  distinct : (primary.key :: steps.map (·.entity.key)).Nodup
  /-- Every entity comes after the one that it hangs from. -/
  parentsFirst : ParentsFirst [primary.key] steps
  /-- Every step belongs to a request. -/
  requested : ∀ step ∈ steps, ∃ request ∈ requests,
    registry.require request.entity = .ok step.entity ∧ step.filter = request.filter
  /-- Every parent is the primary entity or one that a request names. -/
  parents : ∀ step ∈ steps,
    step.parent = primary ∨ ∃ request ∈ requests, registry.require request.parent = .ok step.parent

/-- The order that is found for requests is sound. -/
theorem JoinOrder.ofRequests_sound {registry : Registry} {primary : EntitySchema}
    {requests : List RelatedRequest} {order : JoinOrder}
    (ordered : ofRequests registry primary requests = .ok order) :
    Sound registry primary requests order.steps := by
  -- Resolving settles what comes, and the layers settle in which order.
  obtain ⟨resolved, found, rest⟩ := bind_eq_ok.mp ordered
  obtain ⟨aligned, distinct, fresh⟩ := resolveRequests_ok found
  split at rest
  · contradiction
  cases rest
  -- The layers have the steps of the requests, each of them once.
  have same := joinLayers_perm primary [primary.key] resolved
  have keys : ((joinLayers primary [primary.key] resolved).steps.map (·.entity.key)).Perm
      (resolved.map (·.entity.key)) := by
    have mapped := same.map fun pair => pair.1.key
    rwa [List.map_map, List.map_map] at mapped
  refine ⟨?_, joinLayers_parentsFirst (by simp), ?_, ?_⟩
  · rw [List.nodup_cons]
    refine ⟨fun repeated => ?_, keys.nodup_iff.mpr distinct⟩
    obtain ⟨step, member, equal⟩ := List.mem_map.mp (keys.mem_iff.mp repeated)
    exact fresh step member (by simp [equal])
  · intro step member
    obtain ⟨asked, inside, equal⟩ :=
      List.mem_map.mp (same.mem_iff.mp (List.mem_map.mpr ⟨step, member, rfl⟩))
    obtain ⟨request, requested, origin⟩ := exists_left_of_aligned aligned inside
    obtain ⟨sameEntity, sameFilter⟩ := Prod.mk.inj equal
    exact ⟨request, requested, sameEntity ▸ origin.1, sameFilter ▸ origin.2.1⟩
  · intro step member
    rcases joinLayers_parent member with main | ⟨asked, inside, equal⟩
    · exact .inl main
    · obtain ⟨request, requested, origin⟩ := exists_left_of_aligned aligned inside
      rw [← equal]
      exact origin.2.2.imp_right fun named => ⟨request, requested, named⟩

/-- In a sound order the parent of a step is known at the start or stands at an earlier place. -/
theorem ParentsFirst.parent_before {known : List String} {steps : List JoinStep}
    (first : ParentsFirst known steps) {i : Nat} {step : JoinStep} (at_ : steps[i]? = some step) :
    step.parent.key ∈ known ∨
      ∃ j other, j < i ∧ steps[j]? = some other ∧ other.entity.key = step.parent.key := by
  -- Walking down the list, the entities that were passed become known.
  induction steps generalizing known i with
  | nil => simp at at_
  | cons front rest ih =>
    cases i with
    | zero =>
      simp only [List.getElem?_cons_zero, Option.some.injEq] at at_
      exact .inl (at_ ▸ first.1)
    | succ i =>
      rw [List.getElem?_cons_succ] at at_
      rcases ih first.2 at_ with inside | ⟨j, other, before, found, same⟩
      · rcases List.mem_cons.mp inside with same | inside
        · exact .inr ⟨0, front, by omega, rfl, same.symm⟩
        · exact .inl inside
      · exact .inr ⟨j + 1, other, by omega, found, same⟩

/-- An entity that stands at a place of distinct steps has the source after that place. -/
theorem sourceOf_eq_succ {steps : List JoinStep} (distinct : (steps.map (·.entity.key)).Nodup)
    {j : Nat} {step : JoinStep} (at_ : steps[j]? = some step) {entity : EntitySchema}
    (same : step.entity.key = entity.key) : sourceOf steps entity = j + 1 := by
  -- The first step of that name is the only one.
  have found : steps.findIdx? (·.entity.key == entity.key) = some j := by
    rw [List.findIdx?_eq_some_iff_getElem]
    obtain ⟨inside, equal⟩ := List.getElem?_eq_some_iff.mp at_
    refine ⟨inside, by simp [equal, same], fun k before => ?_⟩
    have apart := List.pairwise_iff_getElem.mp distinct k j (by simp; omega) (by simpa using inside)
      before
    simpa [equal, same] using apart
  simp [sourceOf, found]

/-- An entity that is not among the steps is the primary source. -/
theorem sourceOf_eq_zero {steps : List JoinStep} {entity : EntitySchema}
    (absent : entity.key ∉ steps.map (·.entity.key)) : sourceOf steps entity = 0 := by
  -- The search goes through all steps and finds none.
  have missed : steps.findIdx? (·.entity.key == entity.key) = none := by
    rw [List.findIdx?_eq_none_iff]
    intro step member
    simp only [beq_eq_false_iff_ne]
    exact fun same => absent (List.mem_map.mpr ⟨step, member, same⟩)
  simp [sourceOf, missed]

/-- The parent of a step is the primary source, or the source of a step before it. -/
theorem JoinOrder.Sound.parent_place {registry : Registry} {primary : EntitySchema}
    {requests : List RelatedRequest} {steps : List JoinStep}
    (sound : Sound registry primary requests steps) {i : Nat} {step : JoinStep}
    (at_ : steps[i]? = some step) :
    (step.parent.key = primary.key ∧ sourceOf steps step.parent = 0) ∨
      ∃ j other, j < i ∧ steps[j]? = some other ∧ other.entity.key = step.parent.key ∧
        sourceOf steps step.parent = j + 1 := by
  -- Parents come first, and no entity comes twice.
  obtain ⟨absent, distinct⟩ := List.nodup_cons.mp sound.distinct
  rcases sound.parentsFirst.parent_before at_ with main | ⟨j, other, before, found, same⟩
  · have main : step.parent.key = primary.key := by simpa using main
    exact .inl ⟨main, sourceOf_eq_zero (main ▸ absent)⟩
  · exact .inr ⟨j, other, before, found, same, sourceOf_eq_succ distinct found same⟩

end Joinery
