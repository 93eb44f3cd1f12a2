import Joinery.Plan.Drafting
import Joinery.Proofs.Filter.Reading
import Joinery.Proofs.Plan.JoinOrder
import Joinery.Proofs.Statement.Placeholders

/-! Planning for a dialect in one go writes the statement that planning without a dialect makes. -/

namespace Joinery

variable {registry : Registry} {dialect : Dialect} {entity : EntitySchema} {source : Option Nat}

/-- The plan with the text of its statement in a dialect. -/
def Plan.written (plan : Plan) (dialect : Dialect) : WrittenPlan where
  text := dialect.statement plan.statement
  parameters := plan.parameters
  resultTypes := plan.resultTypes
  primary := plan.primary
  related := plan.related
  rowLimit := plan.rowLimit
  warnings := plan.warnings
  rejectedFields := plan.rejectedFields
  selectedEntities := plan.selectedEntities
  selectedFields := plan.selectedFields

/-- A condition is written like its predicate, and binds what that binds. -/
theorem draftCondition_placed (condition : Condition) (bound : List Parameter) :
    SameOutcome
      (fun placed drafted => drafted = (dialect.predicate source placed.1, bound ++ placed.2))
      (placeCondition entity bound.length condition)
      (draftCondition entity (dialect.column source condition.field) condition bound) := by
  refine (SameOutcome.refl (bindOperand entity condition)).bind ?_
  rintro binding _ rfl
  generalize condition.comparator = comparator
  -- Only a comparison with null may bind nothing.
  by_cases null : binding = .one .null
  · subst null
    cases comparator <;> exact .success (by simp [Dialect.predicate])
  · cases binding with
    | many values => exact .success rfl
    | one value =>
      cases value with
      | null => contradiction
      | _ => exact .success rfl

/-- So are conditions one after the other. -/
theorem Dialect.draftConditions_placed (dialect : Dialect) (entity : EntitySchema)
    (source : Option Nat) (conditions : List Condition) (bound : List Parameter) :
    SameOutcome
      (fun placed drafted =>
        drafted = (placed.1.map (dialect.predicate source), bound ++ placed.2))
      (placeConditions entity bound.length conditions)
      (dialect.draftConditions entity source conditions bound) := by
  -- The values of the first condition are bound before those of the others.
  induction conditions generalizing bound with
  | nil => exact .success (by simp)
  | cons condition rest ih =>
    refine (draftCondition_placed condition bound).bind ?_
    rintro ⟨predicate, more⟩ _ rfl
    have later := ih (bound ++ more)
    rw [List.length_append] at later
    refine later.bind ?_
    rintro ⟨predicates, others⟩ _ rfl
    exact .success (by simp)

/-- The draft behind which something more is written, bound and left out. -/
def Draft.extended (draft : Draft) (text : String) (parameters : List Parameter)
    (rejected : List String) : Draft :=
  ⟨draft.text ++ text, draft.parameters ++ parameters, draft.rejected ++ rejected⟩

/-- The join of a step is written like the join that is planned for it. -/
theorem Dialect.draftJoin_planned (steps : List JoinStep) (draft : Draft) (step : JoinStep) :
    SameOutcome
      (fun filter drafted => drafted = draft.extended
        (dialect.join (sourceOf steps step.entity) (planJoin registry steps step filter.predicates))
        filter.parameters filter.rejected)
      (do
        let filter ← planFilter step.entity draft.parameters.length step.filter
        (registry.checkEntityLimit step.filter).mapError PlanFault.misuse
        return filter)
      (dialect.draftJoin registry steps draft step) := by
  simp only [planFilter, draftJoin, Draft.readFilter, bind_assoc, pure_bind]
  refine (SameOutcome.refl ((Filter.read step.entity step.filter).mapError PlanFault.rejected)).bind ?_
  rintro reading _ rfl
  cases capped : registry.entityLimit step.filter with
  | some cap =>
    -- The conditions stand inside the ranking, where columns have no source.
    have checked : registry.checkEntityLimit step.filter = checkWritable cap := by
      rw [Registry.checkEntityLimit, capped]
    have drafted := dialect.draftConditions_placed step.entity none reading.conditions
      draft.parameters
    dsimp only
    refine drafted.mapError.bind ?_
    rintro ⟨predicates, parameters⟩ _ rfl
    rw [checked]
    refine (SameOutcome.refl ((checkWritable cap).mapError PlanFault.misuse)).bind ?_
    rintro _ _ rfl
    refine .success ?_
    simp only [Draft.extended, planJoin, capped]
    unfold Dialect.join Dialect.joined Dialect.conjunction
    simp only [List.map_nil, String.join_nil, String.append_empty, String.append_assoc]
  | none =>
    -- Without a cap the conditions stand beside the keys, where columns have the alias of the join.
    have checked : registry.checkEntityLimit step.filter = .ok () := by
      rw [Registry.checkEntityLimit, capped]
    have drafted := dialect.draftConditions_placed step.entity
      (some (sourceOf steps step.entity)) reading.conditions draft.parameters
    dsimp only
    refine drafted.mapError.bind ?_
    rintro ⟨predicates, parameters⟩ _ rfl
    rw [checked]
    refine .success ?_
    simp only [Draft.extended, planJoin, capped]
    unfold Dialect.join Dialect.joined
    simp only [List.map_map, Function.comp_def, String.append_assoc]

/-- Joins are written one after the other like those that are planned. -/
theorem Dialect.draftJoins_planned (registry : Registry) {steps : List JoinStep}
    (rest : List JoinStep) (draft : Draft) (position : Nat)
    (placed : ∀ i step, rest[i]? = some step → sourceOf steps step.entity = position + i + 1) :
    SameOutcome
      (fun planned drafted => drafted = draft.extended
        (String.join (planned.joins.mapIdx fun i => dialect.join (position + i + 1)))
        planned.parameters planned.rejected)
      (planJoins registry steps draft.parameters.length rest)
      (rest.foldlM (dialect.draftJoin registry steps) draft) := by
  -- The steps that are left begin at a position that grows with each join.
  induction rest generalizing draft position with
  | nil => exact .success (by simp [Draft.extended])
  | cons step rest ih =>
    have first : sourceOf steps step.entity = position + 1 := placed 0 step rfl
    have others (i : Nat) (other : JoinStep) (found : rest[i]? = some other) :
        sourceOf steps other.entity = position + 1 + i + 1 := by
      have found := placed (i + 1) other (by rwa [List.getElem?_cons_succ])
      omega
    -- One join is planned, and then the others behind its values.
    have planned : planJoins registry steps draft.parameters.length (step :: rest) =
        (do
          let filter ← planFilter step.entity draft.parameters.length step.filter
          (registry.checkEntityLimit step.filter).mapError PlanFault.misuse
          return filter) >>= fun filter => do
            let others ←
              planJoins registry steps (draft.parameters.length + filter.parameters.length) rest
            return ⟨planJoin registry steps step filter.predicates :: others.joins,
              filter.parameters ++ others.parameters, filter.rejected ++ others.rejected⟩ := by
      simp only [planJoins, bind_assoc, pure_bind]
    rw [planned, List.foldlM_cons]
    refine (dialect.draftJoin_planned steps draft step).bind ?_
    rintro filter _ rfl
    have later := ih (draft.extended
      (dialect.join (sourceOf steps step.entity) (planJoin registry steps step filter.predicates))
      filter.parameters filter.rejected) (position + 1) others
    simp only [Draft.extended, List.length_append] at later ⊢
    rw [← bind_pure (List.foldlM _ _ _)]
    refine later.bind ?_
    rintro planned _ rfl
    refine .success ?_
    -- The positions of the others are counted from the next one.
    have moved (i : Nat) : position + 1 + i + 1 = position + (i + 1) + 1 := by omega
    simp [List.mapIdx_cons, first, String.append_assoc, moved]

/-- The conditions on the primary entity are written like the predicates that are planned for them. -/
theorem Dialect.draftWhere_planned (primary : EntitySchema) (filter : Filter) (draft : Draft) :
    SameOutcome
      (fun planned drafted => drafted = draft.extended (dialect.conditionsText planned.predicates)
        planned.parameters planned.rejected)
      (planFilter primary draft.parameters.length (some filter))
      (dialect.draftWhere primary filter draft) := by
  simp only [planFilter, draftWhere, Draft.readFilter, bind_assoc, pure_bind]
  refine (SameOutcome.refl ((Filter.read primary (some filter)).mapError PlanFault.rejected)).bind ?_
  rintro reading _ rfl
  have drafted := dialect.draftConditions_placed primary (some 0) reading.conditions
    draft.parameters
  generalize dialect.draftConditions primary (some 0) reading.conditions draft.parameters = texts
    at drafted ⊢
  cases placed : placeConditions primary draft.parameters.length reading.conditions with
  | error fault =>
    -- Without conditions nothing could fail.
    rw [placed] at drafted
    cases drafted
    split
    · rename_i empty
      rw [List.isEmpty_iff.mp empty] at placed
      contradiction
    · exact .fault _
  | ok found =>
    obtain ⟨predicates, parameters⟩ := found
    have columns := congrArg List.length (placeConditions_columns placed)
    rw [placed] at drafted
    cases drafted with
    | success same =>
      subst same
      rw [List.length_map, List.length_map] at columns
      -- An empty list of conditions has no text, and any other has the word before it.
      split
      · rename_i empty
        rw [List.isEmpty_iff.mp empty] at placed
        cases placed
        exact .success (by simp [Draft.extended, conditionsText])
      · rename_i filled
        have some : predicates.isEmpty = false := by
          rw [Bool.eq_false_iff, ne_eq, List.isEmpty_iff_length_eq_zero, columns,
            ← List.isEmpty_iff_length_eq_zero]
          exact filled
        exact .success (by simp [Draft.extended, conditionsText, conjunction, some])

/-- Columns are written alike in one go and from a plan. -/
theorem Dialect.draftColumns_eq (dialect : Dialect) (source : Nat) (entity : EntitySchema) :
    dialect.draftColumns source entity = (selectedColumns source entity).map dialect.selected := by
  -- Both go through the fields of the entity.
  rw [draftColumns, selectedColumns, List.map_map]
  rfl

/-- The place of a step and the source that is found for it count alike. -/
theorem mapIdx_eq_map_sourceOf {α : Type} {steps : List JoinStep} (write : Nat → JoinStep → α)
    (placed : ∀ i step, steps[i]? = some step → sourceOf steps step.entity = i + 1) :
    (steps.mapIdx fun i step => write (i + 1) step) =
      steps.map fun step => write (sourceOf steps step.entity) step := by
  -- At each position there is one step, and its source is one more.
  refine List.ext_getElem? fun i => ?_
  rw [List.getElem?_map, List.getElem?_mapIdx]
  cases found : steps[i]? with
  | none => rfl
  | some step => rw [Option.map_some, Option.map_some, placed i step found]

/-- The columns of a plan are written source by source. -/
theorem Dialect.plannedColumns_written (dialect : Dialect) (primary : EntitySchema)
    {steps : List JoinStep}
    (placed : ∀ i step, steps[i]? = some step → sourceOf steps step.entity = i + 1) :
    (plannedColumns primary steps).map dialect.selected = dialect.draftColumns 0 primary ++
      steps.flatMap fun step => dialect.draftColumns (sourceOf steps step.entity) step.entity := by
  -- The primary entity has source zero, and each step has the source behind its position.
  rw [plannedColumns,
    mapIdx_eq_map_sourceOf (fun source step => selectedColumns source step.entity) placed,
    ← List.flatMap_def, List.map_append, List.map_flatMap]
  simp only [draftColumns_eq]

/-- The order of a plan is written source by source. -/
theorem Dialect.plannedOrder_written (dialect : Dialect) (primary : EntitySchema)
    {steps : List JoinStep}
    (placed : ∀ i step, steps[i]? = some step → sourceOf steps step.entity = i + 1) :
    ", ".intercalate ((plannedOrder primary steps).map fun ref =>
      dialect.column (some ref.source) ref.column) = dialect.draftOrder primary steps := by
  -- Both list one identifier for each source, the primary one first.
  let reference (source : Nat) (step : JoinStep) : ColumnRef := ⟨source, step.entity.identifierField⟩
  rw [plannedOrder, draftOrder, show (steps.mapIdx fun position step => (⟨position + 1,
    step.entity.identifierField⟩ : ColumnRef)) = _ from mapIdx_eq_map_sourceOf reference placed,
    List.map_cons, List.map_map]
  rfl

/-- Planning for a dialect in one go comes to the plan, with its statement written in the dialect. -/
theorem Registry.planIn_eq (registry : Registry) (dialect : Dialect) (query : Query) :
    registry.planIn dialect query = (registry.plan query).map (·.written dialect) := by
  refine SameOutcome.eq_map ?_
  unfold plan planIn
  cases query.primary.truthy with
  | false => exact .fault _
  | true =>
    refine (SameOutcome.refl query.requiredFilter).bind ?_
    rintro filter _ rfl
    refine (SameOutcome.refl (registry.require query.primary)).bind ?_
    rintro primary _ rfl
    cases ordered : JoinOrder.ofRequests registry primary query.related with
    | error fault => exact .fault fault
    | ok order =>
      -- Each entity is joined once, so the alias of a step is its place.
      have distinct := (List.nodup_cons.mp (JoinOrder.ofRequests_sound ordered).distinct).2
      have placed (i : Nat) (step : JoinStep) (found : order.steps[i]? = some step) :
          sourceOf order.steps step.entity = i + 1 := sourceOf_eq_succ distinct found rfl
      have joined := dialect.draftJoins_planned registry order.steps
        (dialect.draftStart primary order.steps) 0 (by simpa using placed)
      simp only [Nat.zero_add] at joined
      refine joined.bind ?_
      rintro joins _ rfl
      have narrowed := dialect.draftWhere_planned primary filter
        ((dialect.draftStart primary order.steps).extended
          (String.join (joins.joins.mapIdx fun i => dialect.join (i + 1))) joins.parameters
          joins.rejected)
      refine narrowed.bind ?_
      rintro main _ rfl
      -- The cap goes through the same checks on both sides.
      simp only [Query.plannedCap, Dialect.capRows?, mapError_bind, bind_assoc]
      refine (SameOutcome.refl ((registry.rowLimit query.maxRows).mapError PlanFault.misuse)).bind ?_
      rintro limit _ rfl
      refine (SameOutcome.refl (limit.toWhole.mapError PlanFault.misuse)).bind ?_
      rintro cap _ rfl
      refine (SameOutcome.refl ((checkWritable cap).mapError PlanFault.misuse)).bind ?_
      rintro _ _ rfl
      refine .success ?_
      -- What was written in pieces is the statement of the plan.
      have columns := dialect.plannedColumns_written primary placed
      have order := dialect.plannedOrder_written primary placed
      unfold Plan.written Dialect.statement
      rw [columns, order]
      simp only [Draft.extended, Dialect.draftStart, Dialect.conditionsText, List.nil_append,
        String.append_assoc]
      rfl

end Joinery
