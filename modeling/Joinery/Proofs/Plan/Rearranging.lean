import Joinery.Proofs.Database.Rearranging
import Joinery.Proofs.Plan.Permuting
import Joinery.Proofs.Plan.Replacing
import Joinery.Proofs.Plan.Sorting

/-! Joins that are planned in another order match the same rows and link them to the same parents. -/

namespace Joinery

variable {registry : Registry} {query asked : Query} {entity other : EntitySchema}
  {database : Database} {source : Nat}

/-- The source of an entity goes by its name. -/
theorem sourceOf_congr (same : entity.key = other.key) (steps : List JoinStep) :
    sourceOf steps entity = sourceOf steps other := by
  rw [sourceOf, sourceOf, same]

/-- An entity of a plan is found at its own source. -/
theorem Planning.sourceOf_eq (parts : Planning registry query)
    (at_ : parts.entities[source]? = some entity) : sourceOf parts.order.steps entity = source := by
  -- No step joins the primary entity, and no two steps join one entity.
  obtain ⟨absent, distinct⟩ := List.nodup_cons.mp parts.sound.distinct
  cases source with
  | zero =>
    cases at_
    exact sourceOf_eq_zero absent
  | succ i =>
    simp only [entities, List.getElem?_cons_succ, List.getElem?_map,
      Option.map_eq_some_iff] at at_
    obtain ⟨step, placed, rfl⟩ := at_
    exact sourceOf_eq_succ distinct placed rfl

/-- The parent of a step has the name of the entity at the source that the step hangs from. -/
theorem Planning.exists_parent (parts : Planning registry query) {i : Nat} {step : JoinStep}
    (at_ : parts.order.steps[i]? = some step) :
    ∃ above, parts.entities[sourceOf parts.order.steps step.parent]? = some above ∧
      above.key = step.parent.key := by
  -- It is the primary entity, or that of a step before.
  rcases parts.sound.parent_place at_ with ⟨main, zero⟩ | ⟨j, above, _, placed, named, succ⟩
  · exact ⟨parts.primary, by rw [zero]; rfl, main.symm⟩
  · exact ⟨above.entity, by simp [succ, entities, placed], named⟩

/-- The source at which a planning has the entity of a source of another planning. -/
def Planning.placeOf (parts : Planning registry query) (moved : Planning registry asked)
    (source : Nat) : Nat :=
  sourceOf parts.order.steps (moved.entities.getD source moved.primary)

variable {parts : Planning registry query} {moved : Planning registry asked}

/-- Rearranged plannings have the same entities up to order. -/
theorem Planning.Rearranged.entities_perm (rearranged : parts.Rearranged moved) :
    moved.entities.Perm parts.entities := by
  -- The primary entity is the same, and the steps are permuted.
  rw [entities, entities, rearranged.primary]
  exact (rearranged.steps.map (·.entity)).cons _

/-- An entity stands at its place in the other planning. -/
theorem Planning.Rearranged.entity_at (rearranged : parts.Rearranged moved)
    (at_ : moved.entities[source]? = some entity) :
    parts.entities[parts.placeOf moved source]? = some entity := by
  -- It stands at some source there, which is the one that is found.
  obtain ⟨place, found⟩ := List.mem_iff_getElem?.mp
    (rearranged.entities_perm.mem_iff.mp (List.mem_of_getElem? at_))
  rwa [placeOf, List.getD_eq_getElem?_getD, at_, Option.getD_some, parts.sourceOf_eq found]

/-- The place of a place is the source itself. -/
theorem Planning.Rearranged.placeOf_placeOf (rearranged : parts.Rearranged moved)
    (at_ : moved.entities[source]? = some entity) :
    moved.placeOf parts (parts.placeOf moved source) = source := by
  -- Both are the source of one entity.
  rw [placeOf, List.getD_eq_getElem?_getD, rearranged.entity_at at_, Option.getD_some,
    moved.sourceOf_eq at_]

/-- The primary source stays where it is. -/
theorem Planning.Rearranged.placeOf_zero (rearranged : parts.Rearranged moved) :
    parts.placeOf moved 0 = 0 := by
  -- It is found as the primary entity again.
  change sourceOf parts.order.steps moved.primary = 0
  rw [rearranged.primary]
  have own : parts.entities[0]? = some parts.primary := rfl
  exact parts.sourceOf_eq own

/-- The source that a step hangs from is the same one at the other places. -/
theorem Planning.placeOf_parent (parts : Planning registry query)
    (moved : Planning registry asked) {j : Nat} {step : JoinStep}
    (at_ : moved.order.steps[j]? = some step) :
    parts.placeOf moved (sourceOf moved.order.steps step.parent) =
      sourceOf parts.order.steps step.parent := by
  -- Sources are found by names.
  obtain ⟨above, found, named⟩ := moved.exists_parent at_
  rw [placeOf, List.getD_eq_getElem?_getD, found, Option.getD_some]
  exact sourceOf_congr named _

/-- The planned joins of one step in two orders. -/
structure Planning.Rearranged.Pair (parts : Planning registry query)
    (moved : Planning registry asked) (i j : Nat) (step : JoinStep)
    (predicates others : List Predicate) : Prop where
  /-- The step is one of the first planning. -/
  placed : parts.order.steps[i]? = some step
  /-- It is one of the other planning. -/
  placedToo : moved.order.steps[j]? = some step
  /-- Its source there has its place here. -/
  place : parts.placeOf moved (j + 1) = i + 1
  /-- Its join here. -/
  join : parts.plan.statement.joins[i]? =
    some (planJoin registry parts.order.steps step predicates)
  /-- Its join there. -/
  joinToo : moved.plan.statement.joins[j]? =
    some (planJoin registry moved.order.steps step others)
  /-- The same rows satisfy the predicates of both. -/
  alike : satisfies others moved.plan.parameters = satisfies predicates parts.plan.parameters
  /-- Both have predicates on the same columns. -/
  columns : others.map (·.column) = predicates.map (·.column)

/-- Every join of the other planning has its partner. -/
theorem Planning.Rearranged.exists_pair (rearranged : parts.Rearranged moved) {j : Nat}
    {step : JoinStep} (at_ : moved.order.steps[j]? = some step) :
    ∃ i predicates others, Rearranged.Pair parts moved i j step predicates others := by
  obtain ⟨i, placed⟩ := List.mem_iff_getElem?.mp
    (rearranged.steps.mem_iff.mp (List.mem_of_getElem? at_))
  -- The filter is planned at two places, with predicates on the same columns.
  obtain ⟨filter, before, _, planned, join, _⟩ := (planJoins_ok parts.joined).2 i step placed
  obtain ⟨filterToo, beforeToo, _, plannedToo, joinToo, _⟩ :=
    (planJoins_ok moved.joined).2 j step at_
  obtain ⟨again, same, columns⟩ := planFilter_place planned (0 + beforeToo.length)
  cases same.symm.trans plannedToo
  refine ⟨i, filter.predicates, filterToo.predicates, placed, at_, ?_, join, joinToo, ?_, columns⟩
  · have found := rearranged.entity_at (moved.entity_at at_)
    exact parts.entities_unique found (parts.entity_at placed) rfl
  · -- Rows satisfy them as the filter of the step admits rows.
    obtain ⟨predicates, found, admits⟩ := parts.join_at placed
    obtain ⟨others, foundToo, admitsToo⟩ := moved.join_at at_
    have own := congrArg Join.predicates (Option.some.inj (join.symm.trans found))
    have ownToo := congrArg Join.predicates (Option.some.inj (joinToo.symm.trans foundToo))
    simp only [planJoin_predicates] at own ownToo
    funext relation row
    rw [own, ownToo, admits, admitsToo]

/-- At the place of a source the other planning has the same rows. -/
theorem Planning.Rearranged.sourceAt_eq (rearranged : parts.Rearranged moved)
    (database : Database) (at_ : moved.entities[source]? = some entity) :
    sourceAt (moved.plan.statement.sources database moved.plan.parameters) source =
      sourceAt (parts.plan.statement.sources database parts.plan.parameters)
        (parts.placeOf moved source) := by
  cases source with
  | zero =>
    -- Both begin with the table of the primary entity.
    rw [rearranged.placeOf_zero]
    change database.tableOrEmpty moved.primary.tableName =
      database.tableOrEmpty parts.primary.tableName
    rw [rearranged.primary]
  | succ j =>
    simp only [entities, List.getElem?_cons_succ, List.getElem?_map,
      Option.map_eq_some_iff] at at_
    obtain ⟨step, placed, rfl⟩ := at_
    -- The step has a join in both, and what it matches depends on neither order.
    obtain ⟨i, predicates, others, pair⟩ := rearranged.exists_pair placed
    rw [pair.place, Statement.sourceAt_succ pair.join, Statement.sourceAt_succ pair.joinToo]
    exact planJoin_source_congr pair.alike database

/-- The statement of the other planning joins the same sources at other places. -/
theorem Planning.Rearranged.follows (rearranged : parts.Rearranged moved) (database : Database) :
    Statement.Follows database parts.plan.statement parts.plan.parameters moved.plan.statement
      moved.plan.parameters (parts.placeOf moved) where
  length := by rw [moved.joins_length, parts.joins_length, rearranged.steps.length_eq]
  primaryRows := by
    -- The primary filter is bound elsewhere, and admits the same rows.
    have conditions : satisfies moved.plan.statement.conditions moved.plan.parameters =
        satisfies parts.plan.statement.conditions parts.plan.parameters := by
      funext relation row
      rw [moved.main_satisfies, parts.main_satisfies, rearranged.primary, rearranged.filter]
    have table : moved.plan.statement.table = parts.plan.statement.table :=
      congrArg EntitySchema.tableName rearranged.primary
    simp only [Statement.primaryRows, Relation.restrict, conditions, table]
  start := rearranged.placeOf_zero
  joins := by
    intro j paired at_
    obtain ⟨step, _, placed, same, _⟩ := moved.step_at at_
    obtain ⟨i, predicates, others, pair⟩ := rearranged.exists_pair placed
    cases at_.symm.trans pair.joinToo
    have parent := parts.placeOf_parent moved placed
    have source : (planJoin registry moved.order.steps step others).source database
        moved.plan.parameters = (planJoin registry parts.order.steps step predicates).source
          database parts.plan.parameters := planJoin_source_congr pair.alike database
    refine ⟨i, _, pair.place, pair.join, ?_, source, ?_⟩
    · simpa using parent
    · -- A row is linked to one of its parent, whose source is the same for both.
      obtain ⟨above, found, _⟩ := moved.exists_parent placed
      rw [source]
      exact planJoin_links_congr pair.alike (by rw [rearranged.sourceAt_eq database found, parent]) _

variable {joined other : JoinedRow} {kind : Row → Prop}

/-- Joined rows of the other planning are those of this one with their rows at other places. -/
theorem Planning.Rearranged.mem_joinedRows (rearranged : parts.Rearranged moved)
    (member : joined ∈ parts.plan.statement.joinedRows database parts.plan.parameters) :
    rearrange (parts.placeOf moved) joined ∈
      moved.plan.statement.joinedRows database moved.plan.parameters :=
  -- The statements follow each other, and parents stand before their children in both.
  (rearranged.follows database).mem_joinedRows parts.parentsBefore moved.parentsBefore member

/-- A rearranged row has at a source the row that stands at its place. -/
theorem Planning.Rearranged.getD_rearrange (rearranged : parts.Rearranged moved)
    (member : joined ∈ parts.plan.statement.joinedRows database parts.plan.parameters)
    (at_ : moved.entities[source]? = some entity) :
    (rearrange (parts.placeOf moved) joined).getD source [] =
      joined.getD (parts.placeOf moved source) [] := by
  -- There are as many sources as before.
  obtain ⟨inside, _⟩ := List.getElem?_eq_some_iff.mp at_
  refine Joinery.getD_rearrange ?_
  rwa [Statement.length_of_mem_joinedRows member, ← parts.entities_length,
    ← rearranged.entities_perm.length_eq]

/-- At the place of a source it has the row of that source. -/
theorem Planning.Rearranged.getD_rearrange_placeOf (rearranged : parts.Rearranged moved)
    (member : joined ∈ parts.plan.statement.joinedRows database parts.plan.parameters)
    (at_ : parts.entities[source]? = some entity) :
    (rearrange (parts.placeOf moved) joined).getD (moved.placeOf parts source) [] =
      joined.getD source [] := by
  -- The place of a place is the source itself.
  rw [rearranged.getD_rearrange member (rearranged.symm.entity_at at_),
    rearranged.symm.placeOf_placeOf at_]

/-- Rows of two plannings that agree above a source in one order do so in the other. -/
theorem Planning.Rearranged.agreeAbove (rearranged : parts.Rearranged moved)
    (member : joined ∈ parts.plan.statement.joinedRows database parts.plan.parameters)
    (memberToo : other ∈ moved.plan.statement.joinedRows database moved.plan.parameters)
    (agree : parts.AgreeAbove (parts.placeOf moved source) joined
      (rearrange (moved.placeOf parts) other)) :
    moved.AgreeAbove source other (rearrange (parts.placeOf moved) joined) := by
  rintro j paired rfl placed
  -- The source has the same parent in both orders.
  obtain ⟨i, join, here, found, parent, _⟩ := (rearranged.follows database).joins j paired placed
  obtain ⟨step, _, stepAt, rfl, _⟩ := moved.step_at placed
  rw [planJoin_parent] at parent ⊢
  obtain ⟨above, at_, _⟩ := moved.exists_parent stepAt
  have same := agree i join here found
  rwa [← parent, rearranged.symm.getD_rearrange_placeOf memberToo at_,
    ← rearranged.getD_rearrange member at_, eq_comm] at same

/--
In which order sources are joined makes no difference to the first row of a kind.

The joined rows are sorted differently, but the first one of each order has the same row at the source
and at all sources that it hangs from.
-/
theorem Planning.Rearranged.first_eq (rearranged : parts.Rearranged moved)
    (apart : parts.SourcesApart database) (first : parts.First database source kind joined)
    (firstToo : moved.First database (moved.placeOf parts source) kind other)
    (at_ : parts.entities[source]? = some entity) :
    joined.getD source [] = other.getD (moved.placeOf parts source) [] := by
  have back := rearranged.symm.mem_joinedRows firstToo.member
  have there := rearranged.mem_joinedRows first.member
  have chosen : kind ((rearrange (moved.placeOf parts) other).getD source []) := by
    rw [rearranged.symm.getD_rearrange firstToo.member at_]
    exact firstToo.chosen
  have chosenToo : kind ((rearrange (parts.placeOf moved) joined).getD
      (moved.placeOf parts source) []) := by
    rw [rearranged.getD_rearrange_placeOf first.member at_]
    exact first.chosen
  -- Source by source, down from the primary one, the two have one row.
  have rows (above : Nat) (bounded : above < parts.entities.length)
      (below : parts.plan.statement.Below above source) :
      joined.getD above [] = (rearrange (moved.placeOf parts) other).getD above [] := by
    induction above using Nat.strongRecOn with
    | ind above ih =>
      have aboveAt := List.getElem?_eq_getElem bounded
      have agree : parts.AgreeAbove above joined (rearrange (moved.placeOf parts) other) := by
        rintro i join rfl placed
        have parentBefore := parts.parentsBefore i join placed
        exact ih _ (by omega) (by omega) ((Statement.Below.hanging placed .itself).trans below)
      have agreeToo : moved.AgreeAbove (moved.placeOf parts above) other
          (rearrange (parts.placeOf moved) joined) := by
        refine rearranged.agreeAbove first.member firstToo.member ?_
        rwa [rearranged.symm.placeOf_placeOf aboveAt]
      -- In neither order does the other one have the smaller identifier.
      have lower := first.ne_gt back chosen below agree aboveAt
      have upper := firstToo.ne_gt there chosenToo
        ((rearranged.symm.follows database).below below) agreeToo (rearranged.symm.entity_at aboveAt)
      rw [← rearranged.symm.sourceAt_eq database aboveAt,
        rearranged.getD_rearrange_placeOf first.member aboveAt,
        ← rearranged.symm.getD_rearrange firstToo.member aboveAt] at upper
      exact eq_of_identifier apart first.member back agree aboveAt (eq_of_ne_gt lower upper)
  obtain ⟨bounded, _⟩ := List.getElem?_eq_some_iff.mp at_
  rw [rows source bounded .itself, rearranged.symm.getD_rearrange firstToo.member at_]

end Joinery
