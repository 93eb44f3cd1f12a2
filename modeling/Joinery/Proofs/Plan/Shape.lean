import Joinery.Proofs.Filter.Shape
import Joinery.Proofs.Plan.Layering
import Joinery.Proofs.Plan.Parts
import Joinery.Proofs.Plan.Refiltering
import Joinery.Statement.Rendering

/-! Values of filters never reach the text of a statement: they are bound to its places and nothing else. -/

namespace Joinery

/-- Two requests for one entity below one parent, with filters of one shape. -/
structure RelatedRequest.SameShape (first second : RelatedRequest) : Prop where
  /-- They ask for one entity. -/
  entity : second.entity = first.entity
  /-- They name one parent. -/
  parent : second.parent = first.parent
  /-- The filters are of one shape, or both are missing. -/
  filter : Option.Rel Filter.SameShape first.filter second.filter

/-- Two queries that are the same but for the scalars in their filters. -/
structure Query.SameShape (first second : Query) : Prop where
  /-- The primary entity is the same. -/
  primary : second.primary = first.primary
  /-- Its filters are of one shape. -/
  filter : Option.Rel Filter.SameShape first.filter second.filter
  /-- The related entities are the same, in one order and with filters of one shape. -/
  related : List.Forall₂ RelatedRequest.SameShape first.related second.related
  /-- The same entities are kept. -/
  selectedEntities : second.selectedEntities = first.selectedEntities
  /-- The same fields are kept. -/
  selectedFields : second.selectedFields = first.selectedFields
  /-- The cap is the same. -/
  maxRows : second.maxRows = first.maxRows

/-- The places of a plan: their names, what their values mean, and whether they expand to several. -/
def Plan.slots (plan : Plan) : List (String × SemanticType × Bool) :=
  plan.parameters.mapIdx fun place parameter => (placeholderName place, parameter.slot)

variable {registry : Registry}

/-- Filters of one shape cap the records of a parent alike. -/
theorem Registry.entityLimit_shape {filter other : Option Filter}
    (same : Option.Rel Filter.SameShape filter other) :
    registry.entityLimit other = registry.entityLimit filter := by
  -- The caps are part of the shape.
  cases same with
  | none => rfl
  | some shape =>
    rw [Registry.entityLimit, Registry.entityLimit, Option.bind_some, Option.bind_some, shape.limit]

/-- Steps with filters of one shape are planned to the same joins. -/
theorem planJoins_shape {all others steps more : List JoinStep} {place : Nat}
    {planned paired : PlannedJoins}
    (whole : List.Forall₂ (JoinStep.Refiltered fun _ => Option.Rel Filter.SameShape) all others)
    (same : List.Forall₂ (JoinStep.Refiltered fun _ => Option.Rel Filter.SameShape) steps more)
    (one : planJoins registry all place steps = .ok planned)
    (two : planJoins registry others place more = .ok paired) :
    paired.joins = planned.joins ∧ paired.rejected = planned.rejected ∧
      paired.parameters.map Parameter.slot = planned.parameters.map Parameter.slot := by
  -- Every join is planned to the same predicates, and takes as many places.
  induction same generalizing place planned paired with
  | nil =>
    cases one
    cases two
    exact ⟨rfl, rfl, rfl⟩
  | @cons step other rest after head _ ih =>
    obtain ⟨filter, later, narrowed, _, joined, rfl⟩ := planJoins_cons_ok one
    obtain ⟨filter', later', narrowed', _, joined', rfl⟩ := planJoins_cons_ok two
    rw [head.entity] at narrowed'
    obtain ⟨predicates, rejected, slots⟩ := planFilter_shape head.filter narrowed narrowed'
    have size : filter'.parameters.length = filter.parameters.length := by
      simpa only [List.length_map] using congrArg List.length slots
    rw [size] at joined'
    obtain ⟨joins, dropped, places⟩ := ih joined joined'
    have join : planJoin registry others other filter.predicates =
        planJoin registry all step filter.predicates :=
      planJoin_refiltered head whole (Registry.entityLimit_shape head.filter) filter.predicates
    refine ⟨?_, by rw [rejected, dropped], by rw [List.map_append, List.map_append, slots, places]⟩
    rw [predicates, join, joins]

/-- The names and kinds of places only depend on what the parameters have apart from their values. -/
theorem Plan.slots_congr {first second : Plan}
    (same : second.parameters.map Parameter.slot = first.parameters.map Parameter.slot) :
    second.slots = first.slots := by
  -- The name of a place is told by its position.
  refine List.ext_getElem? fun place => ?_
  have found := congrArg (fun slots => (slots[place]?).map (placeholderName place, ·)) same
  rw [Plan.slots, Plan.slots, List.getElem?_mapIdx, List.getElem?_mapIdx]
  simp only [List.getElem?_map, Option.map_map] at found
  exact found

variable {first second : Query}

/-- Requests of one shape differ in their filters only. -/
theorem Query.SameShape.refiltered (same : first.SameShape second) :
    List.Forall₂ (RelatedRequest.Refiltered registry fun _ => Option.Rel Filter.SameShape)
      first.related second.related :=
  -- Names are part of the shape, so they find the same entities.
  same.related.imp fun _ _ shape => ⟨shape.entity, shape.parent, fun _ _ => shape.filter⟩

/-- The filters that two queries of one shape have to give are of one shape. -/
theorem Query.SameShape.requiredFilter {filter other : Filter} (same : first.SameShape second)
    (one : first.requiredFilter = .ok filter) (two : second.requiredFilter = .ok other) :
    filter.SameShape other := by
  -- Both queries have the filter that they give.
  have shapes := same.filter
  rw [Query.requiredFilter_ok one, Query.requiredFilter_ok two] at shapes
  cases shapes with
  | some shape => exact shape

/--
Of two queries that differ in the values of their filters only, the plans differ in what is bound only.

The text of the statement is the same in every dialect, and so are the places in it.
-/
theorem Registry.plan_values_only_bound {plan other : Plan} (same : first.SameShape second)
    (planned : registry.plan first = .ok plan) (paired : registry.plan second = .ok other) :
    other = { plan with parameters := other.parameters } ∧ other.slots = plan.slots ∧
      other.resultTypes = plan.resultTypes ∧
      ∀ dialect : Dialect, dialect.statement other.statement = dialect.statement plan.statement := by
  obtain ⟨parts, rfl⟩ := Registry.plan_ok planned
  obtain ⟨parts', rfl⟩ := Registry.plan_ok paired
  have primary : parts'.primary = parts.primary := by
    have required := parts'.required
    rw [same.primary, parts.required] at required
    exact (Except.ok.inj required).symm
  -- Names, parents and caps decide the joins, their order and the warnings.
  have orders : parts.order.Refiltered (fun _ => Option.Rel Filter.SameShape) parts'.order := by
    have alike : SameOutcome (JoinOrder.Refiltered fun _ => Option.Rel Filter.SameShape)
        (JoinOrder.ofRequests registry parts.primary first.related)
        (JoinOrder.ofRequests registry parts.primary second.related) :=
      JoinOrder.ofRequests_refiltered same.refiltered
    rw [parts.ordered, ← primary, parts'.ordered] at alike
    exact alike.values
  obtain ⟨joins, dropped, places⟩ :=
    planJoins_shape orders.steps orders.steps parts.joined parts'.joined
  have size : parts'.joins.parameters.length = parts.joins.parameters.length := by
    simpa only [List.length_map] using congrArg List.length places
  -- As many values are bound before the primary filter, so its places are the same.
  have narrowed := parts'.narrowed
  rw [primary, size] at narrowed
  obtain ⟨predicates, rejected, slots⟩ :=
    planFilter_shape (.some (same.requiredFilter parts.filtered parts'.filtered)) parts.narrowed
      narrowed
  have caps : (parts'.rowLimit, parts'.cap) = (parts.rowLimit, parts.cap) := by
    have capped := parts'.capped
    rw [Query.plannedCap, same.maxRows] at capped
    exact Except.ok.inj (capped.symm.trans parts.capped)
  obtain ⟨rowLimit, cap⟩ := Prod.mk.inj caps
  have equal : parts'.plan = { parts.plan with parameters := parts'.plan.parameters } := by
    simp only [Planning.plan, primary, joins, predicates, rowLimit, cap, rejected, dropped,
      plannedColumns_refiltered orders.steps, plannedOrder_refiltered orders.steps,
      refiltered_entities orders.steps, orders.warnings, same.selectedEntities,
      same.selectedFields]
  -- All of the plan is equal but for the values, which take the same places.
  refine ⟨equal, Plan.slots_congr ?_, ?_, fun dialect => ?_⟩
  · exact (List.map_append ..).trans ((congrArg₂ _ places slots).trans (List.map_append ..).symm)
  · rw [equal]
    rfl
  · rw [equal]

/-- A query of A by a pattern, and of at most two of each C among some values. -/
def kinQuery (pattern among : Value) : Query where
  primary := .text "A"
  filter := some ⟨[("ID", .map [("$LIKE", pattern), ("$ne", .null)]), ("other", pattern)], none⟩
  related := [⟨.text "C", some ⟨[("id", .map [("$ne", .null), ("$in", among)])], some 2⟩, .text "B"⟩,
    ⟨.text "B", none, .null⟩]
  selectedEntities := []
  selectedFields := []
  maxRows := .null

/-- Another pattern and other values, one or several, make a query of the same shape. -/
theorem kinQuery_shape {pattern other among several : Value} (one : pattern.isGivenScalar = true)
    (two : other.isGivenScalar = true) (first : among.isOperand = true)
    (second : several.isOperand = true) :
    (kinQuery pattern among).SameShape (kinQuery other several) := by
  -- The pattern and the operand are given values, each in the place of the other.
  have patterns : pattern.SameShape other := .scalar one two
  have operands : SameOperator ("$in", among) ("$in", several) :=
    .operand (by decide +kernel) first second
  have null : SameOperator ("$ne", .null) ("$ne", .null) := .value "$ne" (.same .null)
  refine ⟨rfl, .some ⟨?_, rfl⟩, ?_, rfl, rfl, rfl⟩
  · exact .cons ⟨rfl, .map (.cons (.value "$LIKE" patterns) (.cons null .nil))⟩
      (.cons ⟨rfl, patterns⟩ .nil)
  · exact .cons ⟨rfl, rfl, .some ⟨.cons ⟨rfl, .map (.cons null (.cons operands .nil))⟩ .nil, rfl⟩⟩
      (.cons ⟨rfl, rfl, .none⟩ .nil)

/-- The query with plain values. -/
def plainKinQuery : Query := kinQuery (.text "1") (.text "x")

/-- The query with a text that would end a quotation, and with several values in place of one. -/
def quotedKinQuery : Query := kinQuery (.text "' OR 1 = 1 --") (.list [.null, .int 5])

/-- Two queries are planned to one text, although other values are bound. -/
theorem kinQuery_values_only_bound : ∃ plan other : Plan,
    plainKinQuery.SameShape quotedKinQuery ∧ kinRegistry.plan plainKinQuery = .ok plan ∧
    kinRegistry.plan quotedKinQuery = .ok other ∧ other.parameters ≠ plan.parameters ∧
    other = { plan with parameters := other.parameters } ∧ other.slots = plan.slots ∧
    other.resultTypes = plan.resultTypes ∧
    ∀ dialect : Dialect, dialect.statement other.statement = dialect.statement plan.statement := by
  -- The two queries differ in their values only, and both can be planned.
  have same : plainKinQuery.SameShape quotedKinQuery :=
    kinQuery_shape (by decide +kernel) (by decide +kernel) (by decide +kernel) (by decide +kernel)
  have planned := eq_ok_get (show (kinRegistry.plan plainKinQuery).toOption.isSome = true by
    decide +kernel)
  have paired := eq_ok_get (show (kinRegistry.plan quotedKinQuery).toOption.isSome = true by
    decide +kernel)
  exact ⟨_, _, same, planned, paired, by decide +kernel,
    Registry.plan_values_only_bound same planned paired⟩

end Joinery
