import Joinery.Proofs.Plan.Chains
import Joinery.Proofs.Plan.Refiltering

/-! Another filter on one related entity leaves alone what is joined elsewhere. -/

namespace Joinery

/-- The query with another filter on the request at a place. -/
def Query.refilter (query : Query) (place : Nat) (filter : Option Filter) : Query :=
  { query with
    related := query.related.modify place fun request => { request with filter := filter } }

/-- The steps that join an entity of a name, or that are joined below it. -/
inductive JoinStep.Within (steps : List JoinStep) (key : String) : JoinStep → Prop
  /-- The step joins the entity itself. -/
  | itself {step : JoinStep} (named : step.entity.key = key) : Within steps key step
  /-- The parent of the step is joined by a step that is one of them. -/
  | hanging {step above : JoinStep} (inside : above ∈ steps) (within : Within steps key above)
    (hung : above.entity.key = step.parent.key) : Within steps key step

/-- The filters of one entity may differ, those of all others are the same. -/
def FilterRelation.exceptFor (key : String) : FilterRelation := fun entity filter other =>
  entity.key = key ∨ other = filter

variable {registry : Registry} {query asked : Query} {database : Database} {step : JoinStep}

/-- A query with another filter on one request differs in the filter of that request's entity only. -/
theorem Query.refilter_refiltered {place : Nat} {request : RelatedRequest} {entity : EntitySchema}
    (at_ : query.related[place]? = some request)
    (required : registry.require request.entity = .ok entity) (filter : Option Filter) :
    List.Forall₂ (RelatedRequest.Refiltered registry (FilterRelation.exceptFor entity.key))
      query.related (query.refilter place filter).related := by
  -- Up to the place both have the same requests, and so they have behind it.
  have same (request : RelatedRequest) :
      request.Refiltered registry (FilterRelation.exceptFor entity.key) request :=
    ⟨rfl, rfl, fun _ _ => .inr rfl⟩
  change List.Forall₂ _ query.related (query.related.modify place _)
  generalize query.related = requests at at_ ⊢
  induction requests generalizing place with
  | nil => contradiction
  | cons first rest ih =>
    cases place with
    | zero =>
      cases at_
      refine .cons ⟨rfl, rfl, fun found same => .inl ?_⟩ (List.forall₂_same.mpr fun other _ => same other)
      cases required.symm.trans same
      rfl
    | succ place => exact .cons (same first) (ih (by simpa using at_))

/--
The predicates of a join count only as far as rows satisfy them: its source depends on that alone.

What else is joined, and in which order, makes no difference to it.
-/
theorem planJoin_source_congr {steps moved : List JoinStep} {predicates others : List Predicate}
    {parameters bound : List Parameter}
    (alike : satisfies others bound = satisfies predicates parameters) (database : Database) :
    (planJoin registry moved step others).source database bound =
      (planJoin registry steps step predicates).source database parameters := by
  -- A join without cap matches its whole table, one with a cap ranks the rows that satisfy them.
  unfold planJoin
  split
  · rfl
  · simp only [Join.source, Relation.ranked, Relation.ranks, Relation.restrict, Ranking.terms, alike]

/-- So does what it links, where its parent has the same rows. -/
theorem planJoin_links_congr {steps moved : List JoinStep} {predicates others : List Predicate}
    {parameters bound : List Parameter} {sources differing : List Relation}
    (alike : satisfies others bound = satisfies predicates parameters)
    (parent : sourceAt differing (sourceOf moved step.parent) =
      sourceAt sources (sourceOf steps step.parent)) (source : Relation) :
    (planJoin registry moved step others).links differing source bound =
      (planJoin registry steps step predicates).links sources source parameters := by
  -- With a cap and without one, the keys and the predicates decide.
  funext parentRow row
  unfold planJoin
  split
  · simp only [Join.links, parent, alike]
  · simp only [Join.links, parent, satisfies, List.all_nil]

/-- Two plannings that differ in the filter of one related entity only. -/
structure Planning.DifferAt (parts : Planning registry query) (other : Planning registry asked)
    (key : String) : Prop where
  /-- The primary entity is the same. -/
  primary : other.primary = parts.primary
  /-- So is its filter. -/
  filter : asked.filter = query.filter
  /-- The steps are the same but for the filter of one entity. -/
  steps : List.Forall₂ (JoinStep.Refiltered (FilterRelation.exceptFor key)) parts.order.steps
    other.order.steps
  /-- The same entities are kept. -/
  selectedEntities : asked.selectedEntities = query.selectedEntities
  /-- The same fields of them are kept. -/
  selectedFields : asked.selectedFields = query.selectedFields

/-- Another filter on one request changes the planning at its entity only. -/
theorem Planning.differAt_of_refilter {place : Nat} {filter : Option Filter}
    (parts : Planning registry query) (other : Planning registry (query.refilter place filter))
    {request : RelatedRequest} {entity : EntitySchema} (at_ : query.related[place]? = some request)
    (required : registry.require request.entity = .ok entity) :
    parts.DifferAt other entity.key := by
  have primary : other.primary = parts.primary :=
    Except.ok.inj (other.required.symm.trans parts.required)
  -- Filters play no part in the order of the joins, so the same entities are joined at the same places.
  have orders : SameOutcome (JoinOrder.Refiltered (FilterRelation.exceptFor entity.key))
      (JoinOrder.ofRequests registry parts.primary query.related)
      (JoinOrder.ofRequests registry parts.primary (query.refilter place filter).related) :=
    JoinOrder.ofRequests_refiltered (Query.refilter_refiltered at_ required filter)
  have ordered := other.ordered
  rw [primary] at ordered
  rw [parts.ordered, ordered] at orders
  exact ⟨primary, rfl, orders.values.steps, rfl, rfl⟩

/-- A source at which no step joins an entity of a name or something below it. -/
def Planning.Untouched (parts : Planning registry query) (key : String) (source : Nat) : Prop :=
  ∀ (i : Nat) (step : JoinStep), source = i + 1 → parts.order.steps[i]? = some step →
    ¬ step.Within parts.order.steps key

/-- What an untouched source hangs from is untouched. -/
theorem Planning.Untouched.parent {parts : Planning registry query} {key : String} {i : Nat}
    (at_ : parts.order.steps[i]? = some step) (untouched : parts.Untouched key (i + 1)) :
    parts.Untouched key (sourceOf parts.order.steps step.parent) := by
  -- The parent's source is the primary one or that of a step, which would have the step below it.
  intro j above same placed within
  rcases parts.sound.parent_place at_ with ⟨_, zero⟩ | ⟨k, other, _, found, named, succ⟩
  · omega
  · obtain rfl : k = j := by omega
    cases found.symm.trans placed
    exact untouched i step rfl at_ (.hanging (List.mem_of_getElem? placed) within named)

variable {parts : Planning registry query} {other : Planning registry asked} {key : String} {i : Nat}

/-- Outside the entity and what is below it both plannings have the same step. -/
theorem Planning.DifferAt.step_at (differ : parts.DifferAt other key)
    (at_ : parts.order.steps[i]? = some step) (outside : ¬ step.Within parts.order.steps key) :
    other.order.steps[i]? = some step := by
  obtain ⟨length, alike⟩ := List.forall₂_iff_get.mp differ.steps
  obtain ⟨short, rfl⟩ := List.getElem?_eq_some_iff.mp at_
  have longer : i < other.order.steps.length := length ▸ short
  obtain ⟨entity, parent, filter⟩ := alike i short longer
  rw [List.getElem?_eq_getElem longer]
  -- The filter is that of another entity, so it was not replaced.
  have filter := filter.resolve_left fun named => outside (.itself named)
  simp only [List.get_eq_getElem] at entity parent filter
  cases found : other.order.steps[i]
  simp only [found] at entity parent filter
  simp only [entity, parent, filter]

/-- There both plan the same join, with predicates that the same rows satisfy. -/
theorem Planning.DifferAt.join_at (differ : parts.DifferAt other key)
    (at_ : parts.order.steps[i]? = some step) (outside : ¬ step.Within parts.order.steps key) :
    ∃ predicates others, parts.plan.statement.joins[i]? =
        some (planJoin registry parts.order.steps step predicates) ∧
      other.plan.statement.joins[i]? =
        some (planJoin registry parts.order.steps step others) ∧
      satisfies others other.plan.parameters = satisfies predicates parts.plan.parameters := by
  -- The filter of the step is untouched, so it admits the same rows in both.
  obtain ⟨predicates, found, admits⟩ := parts.join_at at_
  obtain ⟨others, paired, admitsToo⟩ := other.join_at (differ.step_at at_ outside)
  have same : step.Refiltered (FilterRelation.exceptFor key) step := ⟨rfl, rfl, .inr rfl⟩
  rw [planJoin_refiltered same differ.steps rfl] at paired
  refine ⟨predicates, others, found, paired, ?_⟩
  funext relation row
  rw [admits, admitsToo]

/-- An untouched source has the same rows for both. -/
theorem Planning.DifferAt.sourceAt_eq (differ : parts.DifferAt other key) {source : Nat}
    (untouched : parts.Untouched key source) (bounded : source ≤ parts.order.steps.length) :
    sourceAt (other.plan.statement.sources database other.plan.parameters) source =
      sourceAt (parts.plan.statement.sources database parts.plan.parameters) source := by
  -- The primary table has no filter inside, and a join has the one of its step.
  cases source with
  | zero =>
    change database.tableOrEmpty other.primary.tableName =
      database.tableOrEmpty parts.primary.tableName
    rw [differ.primary]
  | succ i =>
    have at_ := List.getElem?_eq_getElem (Nat.lt_of_succ_le bounded)
    obtain ⟨predicates, others, found, paired, alike⟩ :=
      differ.join_at at_ (untouched i _ rfl at_)
    rw [Statement.sourceAt_succ found, Statement.sourceAt_succ paired]
    exact planJoin_source_congr alike database

/-- At untouched sources the statements of both match the same rows and link them alike. -/
theorem Planning.DifferAt.shares (differ : parts.DifferAt other key) (database : Database) :
    Statement.Shares database parts.plan.statement parts.plan.parameters other.plan.statement
      other.plan.parameters (parts.Untouched key) where
  primaryRows := by
    -- The primary rows are those of one table that satisfy the same filter.
    have conditions : satisfies other.plan.statement.conditions other.plan.parameters =
        satisfies parts.plan.statement.conditions parts.plan.parameters := by
      funext relation row
      rw [other.main_satisfies, parts.main_satisfies, differ.primary, differ.filter]
    have table : other.plan.statement.table = parts.plan.statement.table :=
      congrArg EntitySchema.tableName differ.primary
    simp only [Statement.primaryRows, Relation.restrict, conditions, table]
  length := by
    rw [parts.joins_length, other.joins_length, differ.steps.length_eq]
  parents := by
    intro i join at_ untouched
    obtain ⟨step, predicates, placed, rfl, _⟩ := parts.step_at at_
    rw [planJoin_parent]
    exact untouched.parent placed
  joins := by
    intro i join paired atJoin atPaired untouched
    obtain ⟨step, _, placed, _, _⟩ := parts.step_at atJoin
    obtain ⟨predicates, others, found, foundToo, alike⟩ :=
      differ.join_at placed (untouched i step rfl placed)
    cases atJoin.symm.trans found
    cases atPaired.symm.trans foundToo
    -- The parent of a step is joined before it.
    have before : sourceOf parts.order.steps step.parent ≤ i := by
      have hangs := parts.parentsBefore i _ atJoin
      rwa [planJoin_parent] at hangs
    obtain ⟨short, _⟩ := List.getElem?_eq_some_iff.mp placed
    -- A row is linked to one of its parent, whose source is the same for both.
    refine ⟨by rw [planJoin_parent, planJoin_parent], planJoin_source_congr alike database, ?_⟩
    rw [planJoin_source_congr alike database]
    exact planJoin_links_congr alike (differ.sourceAt_eq (untouched.parent placed) (by omega)) _

end Joinery
