import Joinery.Proofs.Plan.Chains
import Joinery.Proofs.Plan.Layering
import Mathlib.Data.List.Perm.Basic

/-! Requests in another order are joined all the same: each to its parent, with its own filter. -/

namespace Joinery

variable {registry : Registry} {primary : EntitySchema} {requests steps : List JoinStep}
  {submitted asked : List RelatedRequest}

/-- How far out a request is does not depend on the order of the others. -/
theorem JoinStep.isAtDepth_perm (permuted : steps.Perm requests) :
    JoinStep.isAtDepth primary steps = JoinStep.isAtDepth primary requests := by
  -- The request for a parent is searched among all of them.
  funext depth
  induction depth with
  | zero => rfl
  | succ depth ih =>
    funext request
    rw [isAtDepth, isAtDepth, ih]
    exact permuted.any_eq

/-- Where every request is reached, the joins are the requests with the parents that they ask for. -/
theorem joinLayers_perm_of_reached {joined : List String} {pending : List JoinStep}
    (reached : (joinLayers primary joined pending).unreachable = []) :
    (joinLayers primary joined pending).steps.Perm pending := by
  -- A layer and what waits for it are the two halves of the pending steps.
  induction joined, pending using joinLayers.induct primary with
  | case1 joined pending stuck =>
    rw [joinLayers, dif_pos stuck] at reached ⊢
    have none : pending = [] := reached
    subst none
    exact .refl _
  | case2 joined pending occupied layer ih =>
    rw [joinLayers, dif_neg occupied] at reached ⊢
    exact ((ih reached).append_left _).trans (List.filter_append_perm _ pending)

/-- Valid requests are valid in any order. -/
theorem ValidRequests.perm (valid : ValidRequests registry primary submitted requests)
    (permuted : asked.Perm submitted) :
    ∃ steps, ValidRequests registry primary asked steps ∧ steps.Perm requests := by
  -- What the requests name moves along with them.
  obtain ⟨steps, named, same⟩ := List.perm_comp_forall₂ permuted valid.named
  refine ⟨steps, ⟨named, ?_, ?_⟩, same⟩
  · have keys := (same.map (·.entity.key)).cons primary.key
    exact keys.nodup_iff.mpr valid.distinct
  · intro step member
    have found := valid.present step (same.mem_iff.mp member)
    refine found.imp_right ?_
    rintro ⟨other, inside, named⟩
    exact ⟨other, same.mem_iff.mpr inside, named⟩

/-- Where every request is reached, the same joins come about in any order of the requests. -/
theorem JoinOrder.ofRequests_perm {order : JoinOrder}
    (ordered : ofRequests registry primary submitted = .ok order) (reached : order.unreachable = [])
    (permuted : asked.Perm submitted) :
    ∃ other, ofRequests registry primary asked = .ok other ∧ other.unreachable = [] ∧
      other.steps.Perm order.steps := by
  obtain ⟨requests, valid, _⟩ := valid_of_ofRequests ordered
  obtain ⟨steps, validToo, same⟩ := valid.perm permuted
  cases valid.ofRequests_eq.symm.trans ordered
  -- Every request has a chain, and a chain is one among the requests in any order.
  have left := (joinLayers_unreachable valid.distinct).2
  obtain ⟨part, leftToo⟩ := joinLayers_unreachable validToo.distinct
  have none : (joinLayers primary [primary.key] steps).unreachable = [] := by
    refine List.eq_nil_iff_forall_not_mem.mpr fun request member => ?_
    have inside := part.subset member
    have stray := (leftToo request inside).mp member
    rw [JoinStep.Reachable, JoinStep.isAtDepth_perm same] at stray
    have among := (left request (same.mem_iff.mp inside)).mpr stray
    rw [reached] at among
    exact absurd among List.not_mem_nil
  refine ⟨_, validToo.ofRequests_eq, none, ?_⟩
  exact ((joinLayers_perm_of_reached none).trans same).trans
    (joinLayers_perm_of_reached reached).symm

variable {entity : EntitySchema} {place : Nat}

/-- A condition that is placed somewhere can be placed anywhere, and binds the same. -/
theorem placeCondition_place {condition : Condition} {predicate : Predicate}
    {bound : List Parameter} (placed : placeCondition entity place condition = .ok (predicate, bound))
    (elsewhere : Nat) :
    ∃ other, placeCondition entity elsewhere condition = .ok (other, bound) ∧
      other.column = predicate.column := by
  -- The place is only written into the predicate.
  obtain ⟨binding, converted, placed⟩ := bind_eq_ok.mp placed
  generalize named : condition.comparator = comparator at placed
  split at placed
  · cases placed
    exact ⟨_, bind_eq_ok.mpr ⟨_, converted, by rw [named]; rfl⟩, rfl⟩
  · cases placed
    exact ⟨_, bind_eq_ok.mpr ⟨_, converted, by rw [named]; rfl⟩, rfl⟩
  · rename_i notEqual notUnequal
    cases placed
    refine ⟨.compare condition.field comparator elsewhere,
      bind_eq_ok.mpr ⟨_, converted, ?_⟩, rfl⟩
    rw [named]
    split
    · exact (notEqual rfl rfl).elim
    · exact (notUnequal rfl rfl).elim
    · rfl

/-- So can several conditions, one after the other. -/
theorem placeConditions_place {conditions : List Condition} {predicates : List Predicate}
    {bound : List Parameter}
    (placed : placeConditions entity place conditions = .ok (predicates, bound)) (elsewhere : Nat) :
    ∃ others, placeConditions entity elsewhere conditions = .ok (others, bound) ∧
      others.map (·.column) = predicates.map (·.column) := by
  -- The later conditions follow behind what the first one binds.
  induction conditions generalizing place elsewhere predicates bound with
  | nil =>
    cases placed
    exact ⟨[], rfl, rfl⟩
  | cons condition rest ih =>
    obtain ⟨⟨predicate, own⟩, first, placed⟩ := bind_eq_ok.mp placed
    obtain ⟨⟨more, behind⟩, later, placed⟩ := bind_eq_ok.mp placed
    cases placed
    obtain ⟨moved, firstToo, column⟩ := placeCondition_place first elsewhere
    obtain ⟨others, laterToo, columns⟩ := ih later (elsewhere + own.length)
    refine ⟨moved :: others, bind_eq_ok.mpr ⟨_, firstToo, bind_eq_ok.mpr ⟨_, laterToo, rfl⟩⟩, ?_⟩
    rw [List.map_cons, List.map_cons, column, columns]

/-- A filter that is planned somewhere can be planned anywhere, with predicates on the same columns. -/
theorem planFilter_place {filter : Option Filter} {planned : PlannedFilter}
    (built : planFilter entity place filter = .ok planned) (elsewhere : Nat) :
    ∃ other, planFilter entity elsewhere filter = .ok other ∧
      other.predicates.map (·.column) = planned.predicates.map (·.column) := by
  -- The place goes into the predicates, but not into what is read and converted.
  obtain ⟨reading, read, built⟩ := bind_eq_ok.mp built
  obtain ⟨⟨predicates, parameters⟩, placed, built⟩ := bind_eq_ok.mp built
  cases built
  obtain ⟨others, placedToo, columns⟩ :=
    placeConditions_place (mapError_eq_ok.mp placed) elsewhere
  let moved : PlannedFilter :=
    ⟨others, parameters, reading.rejected.map fun field => entity.name ++ "." ++ field⟩
  refine ⟨moved, bind_eq_ok.mpr ⟨_, read, ?_⟩, columns⟩
  exact bind_eq_ok.mpr ⟨_, mapError_eq_ok.mpr placedToo, rfl⟩

/-- What a step needs for its join to be planned. -/
def JoinStep.Plannable (registry : Registry) (step : JoinStep) : Prop :=
  (∃ place planned, planFilter step.entity place step.filter = .ok planned) ∧
    registry.checkEntityLimit step.filter = .ok ()

variable {all joins : List JoinStep}

/-- Joins are planned only where each of them can be. -/
theorem plannable_of_planJoins {planned : PlannedJoins}
    (built : planJoins registry all place joins = .ok planned) :
    ∀ step ∈ joins, step.Plannable registry := by
  -- The joins are planned one by one, each at the place that is reached.
  induction joins generalizing place planned with
  | nil => exact fun _ member => absurd member List.not_mem_nil
  | cons first rest ih =>
    obtain ⟨filter, others, narrowed, written, later, _⟩ := planJoins_cons_ok built
    exact List.forall_mem_cons.mpr ⟨⟨⟨place, filter, narrowed⟩, written⟩, ih later⟩

/-- Where each of them can be, joins are planned from any place on. -/
theorem exists_planJoins (all : List JoinStep)
    (plannable : ∀ step ∈ joins, step.Plannable registry) (place : Nat) :
    ∃ planned, planJoins registry all place joins = .ok planned := by
  -- Each join begins where the values of those before it end.
  induction joins generalizing place with
  | nil => exact ⟨_, rfl⟩
  | cons first rest ih =>
    obtain ⟨⟨⟨elsewhere, own, found⟩, written⟩, others⟩ := List.forall_mem_cons.mp plannable
    obtain ⟨filter, narrowed, _⟩ := planFilter_place found place
    obtain ⟨later, built⟩ := ih others (place + filter.parameters.length)
    let planned : PlannedJoins := ⟨planJoin registry all first filter.predicates :: later.joins,
      filter.parameters ++ later.parameters, filter.rejected ++ later.rejected⟩
    refine ⟨planned, bind_eq_ok.mpr ⟨filter, narrowed, bind_eq_ok.mpr ⟨(), ?_, ?_⟩⟩⟩
    · exact mapError_eq_ok.mpr written
    · exact bind_eq_ok.mpr ⟨later, built, rfl⟩

/-- The query with other related entities. -/
def Query.relate (query : Query) (asked : List RelatedRequest) : Query :=
  { query with related := asked }

variable {query other : Query}

/-- Two plannings of the same joins in different orders. -/
structure Planning.Rearranged (parts : Planning registry query) (moved : Planning registry other) :
    Prop where
  /-- The primary entity is the same. -/
  primary : moved.primary = parts.primary
  /-- The joins are the same up to order. -/
  steps : moved.order.steps.Perm parts.order.steps
  /-- The primary filter is the same. -/
  filter : other.filter = query.filter
  /-- The cap on joined rows is the same. -/
  cap : moved.cap = parts.cap
  /-- The same entities are kept. -/
  selectedEntities : other.selectedEntities = query.selectedEntities
  /-- The same fields of them are kept. -/
  selectedFields : other.selectedFields = query.selectedFields

/-- What is rearranged is so from either side. -/
theorem Planning.Rearranged.symm {parts : Planning registry query}
    {moved : Planning registry other} (rearranged : parts.Rearranged moved) :
    moved.Rearranged parts where
  -- Each part is an equality or a permutation.
  primary := rearranged.primary.symm
  steps := rearranged.steps.symm
  filter := rearranged.filter.symm
  cap := rearranged.cap.symm
  selectedEntities := rearranged.selectedEntities.symm
  selectedFields := rearranged.selectedFields.symm

/-- A query that is planned without a warning is planned so in any order of its requests. -/
theorem Planning.exists_rearranged (parts : Planning registry query)
    (reached : parts.order.unreachable = []) (permuted : asked.Perm query.related) :
    ∃ moved : Planning registry (query.relate asked),
      moved.order.unreachable = [] ∧ parts.Rearranged moved := by
  obtain ⟨order, ordered, none, same⟩ :=
    JoinOrder.ofRequests_perm parts.ordered reached permuted
  -- Each join is planned as before, with its values at other places, and so is the primary filter.
  have plannable := plannable_of_planJoins parts.joined
  obtain ⟨joins, joined⟩ := exists_planJoins order.steps
    (fun step member => plannable step (same.mem_iff.mp member)) 0
  obtain ⟨main, narrowed, _⟩ := planFilter_place parts.narrowed joins.parameters.length
  let moved : Planning registry (query.relate asked) :=
    ⟨parts.filter, parts.primary, order, joins, main, parts.rowLimit, parts.cap, parts.named,
      parts.filtered, parts.required, ordered, joined, narrowed, parts.capped⟩
  exact ⟨moved, none, rfl, same, rfl, rfl, rfl, rfl⟩

end Joinery
