import Joinery.Proofs.Filter.KeyOrder
import Joinery.Proofs.Plan.Pruning
import Joinery.Proofs.Plan.Rechecking
import Joinery.Proofs.Query.Retelling

/-! Filters in other words lead to statements that join the same rows. -/

namespace Joinery

variable {registry : Registry} {query other : Query} {database : Database}

/-- Two plannings that differ in the words of their filters only. -/
structure Planning.Rephrased (parts : Planning registry query) (moved : Planning registry other) :
    Prop where
  /-- The primary entity is the same. -/
  primary : moved.primary = parts.primary
  /-- Its filter is the same in other words. -/
  filter : parts.primary.Rephrases query.filter other.filter
  /-- So are the filters of the steps. -/
  steps : List.Forall₂ (JoinStep.Refiltered EntitySchema.Rephrases) parts.order.steps
    moved.order.steps
  /-- The same warnings come up. -/
  warnings : moved.order.warnings moved.primary = parts.order.warnings parts.primary
  /-- The cap on joined rows is the same. -/
  cap : moved.cap = parts.cap

/-- The predicates of one step in two plannings: they are on the same columns, and select the same rows. -/
structure Planning.Rephrased.Pair (parts : Planning registry query)
    (moved : Planning registry other) (predicates others : List Predicate) : Prop where
  /-- The same rows satisfy the predicates of both. -/
  alike : satisfies others moved.plan.parameters = satisfies predicates parts.plan.parameters
  /-- Both have predicates on the same columns. -/
  columns : (others.map (·.column)).Perm (predicates.map (·.column))

variable {parts : Planning registry query} {moved : Planning registry other}

/-- Each join has its partner at the same place. -/
theorem Planning.Rephrased.joins (rephrased : parts.Rephrased moved) :
    List.Forall₂ (fun join paired => ∃ step predicates others,
      Rephrased.Pair parts moved predicates others ∧
        join = planJoin registry parts.order.steps step predicates ∧
        paired = planJoin registry parts.order.steps step others)
      parts.plan.statement.joins moved.plan.statement.joins := by
  obtain ⟨length, alike⟩ := List.forall₂_iff_get.mp rephrased.steps
  refine List.forall₂_iff_get.mpr ⟨?_, fun i short longer => ?_⟩
  · rw [parts.joins_length, moved.joins_length, length]
  have inside : i < parts.order.steps.length := parts.joins_length ▸ short
  have insideToo : i < moved.order.steps.length := moved.joins_length ▸ longer
  -- Both plan a filter for the same entity, with predicates on the same columns.
  have head := alike i inside insideToo
  have at_ := List.getElem?_eq_getElem inside
  have atToo := List.getElem?_eq_getElem insideToo
  obtain ⟨filter, before, _, planned, join, _⟩ := (planJoins_ok parts.joined).2 i _ at_
  obtain ⟨filterToo, beforeToo, _, plannedToo, joinToo, _⟩ := (planJoins_ok moved.joined).2 i _ atToo
  obtain ⟨predicates, found, admits⟩ := parts.join_at at_
  obtain ⟨others, foundToo, admitsToo⟩ := moved.join_at atToo
  -- The predicates of the joins are those that were planned for the filters.
  have own := congrArg Join.predicates (Option.some.inj (join.symm.trans found))
  have ownToo := congrArg Join.predicates (Option.some.inj (joinToo.symm.trans foundToo))
  simp only [planJoin_predicates] at own ownToo
  simp only [List.get_eq_getElem] at head ⊢
  rw [head.entity] at plannedToo
  rw [planJoin_refiltered head rephrased.steps (head.filter.entityLimit registry)] at foundToo
  refine ⟨parts.order.steps[i], predicates, others, ⟨?_, ?_⟩, ?_, ?_⟩
  · funext relation row
    rw [admits, admitsToo, head.entity, head.filter.admits]
  · rw [← own, ← ownToo]
    exact head.filter.columns planned plannedToo
  · exact Option.some.inj ((List.getElem?_eq_getElem short).symm.trans found)
  · exact Option.some.inj ((List.getElem?_eq_getElem longer).symm.trans foundToo)

/-- The primary predicates are satisfied by the same rows. -/
theorem Planning.Rephrased.conditions (rephrased : parts.Rephrased moved) :
    satisfies moved.plan.statement.conditions moved.plan.parameters =
      satisfies parts.plan.statement.conditions parts.plan.parameters := by
  -- The predicates admit what the filter admits, and both filters admit the same.
  funext relation row
  rw [moved.main_satisfies, parts.main_satisfies, rephrased.primary, rephrased.filter.admits]

/-- The primary rows come from the same table. -/
theorem Planning.Rephrased.table (rephrased : parts.Rephrased moved) :
    moved.plan.statement.table = parts.plan.statement.table :=
  congrArg EntitySchema.tableName rephrased.primary

/-- The same columns are returned. -/
theorem Planning.Rephrased.columns (rephrased : parts.Rephrased moved) :
    moved.plan.statement.columns = parts.plan.statement.columns := by
  -- The columns are those of the entities, which are the same.
  change plannedColumns moved.primary _ = plannedColumns parts.primary _
  rw [rephrased.primary, plannedColumns_refiltered rephrased.steps]

/-- Rows are sorted by the same columns. -/
theorem Planning.Rephrased.order (rephrased : parts.Rephrased moved) :
    moved.plan.statement.order = parts.plan.statement.order := by
  -- The identifiers are those of the entities.
  change plannedOrder moved.primary _ = plannedOrder parts.primary _
  rw [rephrased.primary, plannedOrder_refiltered rephrased.steps]

/-- All sources have the same rows. -/
theorem Planning.Rephrased.sources (rephrased : parts.Rephrased moved) (database : Database) :
    moved.plan.statement.sources database moved.plan.parameters =
      parts.plan.statement.sources database parts.plan.parameters := by
  -- Join by join the predicates are satisfied by the same rows.
  have joined : moved.plan.statement.joins.map (·.source database moved.plan.parameters) =
      parts.plan.statement.joins.map (·.source database parts.plan.parameters) := by
    have joins := rephrased.joins
    generalize parts.plan.statement.joins = firsts, moved.plan.statement.joins = seconds at joins ⊢
    induction joins with
    | nil => rfl
    | cons head _ ih =>
      obtain ⟨step, predicates, others, pair, rfl, rfl⟩ := head
      rw [List.map_cons, List.map_cons, ih, planJoin_source_congr pair.alike database]
  rw [Statement.sources, Statement.sources, rephrased.table, joined]

/-- Joins that accept the same rows join the same rows. -/
theorem joinAll_congr {sources : List Relation} {parameters bound : List Parameter}
    {joins others : List Join} {matched : List Relation}
    (accepts : List.Forall₂ (fun join paired : Join =>
      ∀ source, paired.accepts sources source bound = join.accepts sources source parameters)
      joins others) (rows : List JoinedRow) :
    joinAll sources bound (others.zip matched) rows =
      joinAll sources parameters (joins.zip matched) rows := by
  -- After the first join the same rows are there for the others.
  induction accepts generalizing matched rows with
  | nil => rfl
  | cons head _ ih =>
    cases matched with
    | nil => rfl
    | cons source rest =>
      simp only [List.zip_cons_cons, joinAll, head]
      exact ih _

/-- The same rows are joined, in the same order. -/
theorem Planning.Rephrased.joinedRows (rephrased : parts.Rephrased moved) (database : Database) :
    moved.plan.statement.joinedRows database moved.plan.parameters =
      parts.plan.statement.joinedRows database parts.plan.parameters := by
  have start : moved.plan.statement.primaryRows database moved.plan.parameters =
      parts.plan.statement.primaryRows database parts.plan.parameters := by
    simp only [Statement.primaryRows, Relation.restrict, rephrased.table, rephrased.conditions]
  -- Both start with the same rows, and every join takes rows from the same source.
  rw [Statement.joinedRows, Statement.joinedRows, rephrased.sources, start]
  refine joinAll_congr (rephrased.joins.imp fun join paired same source => ?_) _
  obtain ⟨step, predicates, others, pair, rfl, rfl⟩ := same
  funext joined row
  -- A row is linked to the same one of its parent, by the same keys.
  rw [Join.accepts_eq_links, Join.accepts_eq_links, planJoin_links_congr pair.alike rfl,
    planJoin_parent, planJoin_parent]

/-- The same rows are returned, in the same order. -/
theorem Planning.Rephrased.resultRows (rephrased : parts.Rephrased moved) (database : Database) :
    moved.plan.statement.resultRows database moved.plan.parameters =
      parts.plan.statement.resultRows database parts.plan.parameters := by
  -- The joined rows are the same, and sorting and capping look at the same columns.
  have cap : moved.plan.statement.cap = parts.plan.statement.cap := rephrased.cap
  have sorted : moved.plan.statement.sortedBefore = parts.plan.statement.sortedBefore := by
    funext sources a b
    simp only [Statement.sortedBefore, Statement.sortKey, rephrased.order]
  rw [Statement.resultRows, Statement.resultRows, rephrased.sources, rephrased.joinedRows, cap,
    sorted]

/-- What holds of all columns of some predicates holds of the columns of others, if they are the same. -/
theorem forall_column_of_perm {predicates others : List Predicate} {P : String → Prop}
    (columns : (others.map (·.column)).Perm (predicates.map (·.column)))
    (all : ∀ predicate ∈ predicates, P predicate.column) :
    ∀ predicate ∈ others, P predicate.column := by
  -- The column is that of some former predicate.
  intro predicate member
  obtain ⟨found, inside, same⟩ :=
    List.mem_map.mp (columns.mem_iff.mp (List.mem_map_of_mem member))
  exact same ▸ all found inside

/-- A ranking passes its check when its predicates are on the same columns in another order. -/
theorem planJoin_checkRanking_perm (registry : Registry) (steps : List JoinStep) (step : JoinStep)
    {predicates others : List Predicate}
    (columns : (others.map (·.column)).Perm (predicates.map (·.column)))
    (checked : (planJoin registry steps step predicates).checkRanking database = .ok ()) :
    (planJoin registry steps step others).checkRanking database = .ok () := by
  unfold planJoin at checked ⊢
  split at checked
  · rfl
  · -- The key and the order are checked first, and then the columns in any order.
    obtain ⟨_, key, checked⟩ := bind_eq_ok.mp checked
    obtain ⟨_, terms, checked⟩ := bind_eq_ok.mp checked
    refine bind_eq_ok.mpr ⟨(), key, bind_eq_ok.mpr ⟨(), terms, checkAll_ok.mpr ?_⟩⟩
    exact forall_column_of_perm (P := fun column => checkPlainColumn _ column = .ok ()) columns
      (checkAll_ok.mp checked)

/-- The conditions beside the keys are on the same columns. -/
theorem planJoin_conditions_perm (registry : Registry) (steps : List JoinStep) (step : JoinStep)
    {predicates others : List Predicate}
    (columns : (others.map (·.column)).Perm (predicates.map (·.column))) :
    ((planJoin registry steps step others).conditions.map (·.column)).Perm
      ((planJoin registry steps step predicates).conditions.map (·.column)) := by
  -- With a cap there are none beside the keys.
  unfold planJoin
  split
  · exact columns
  · exact .refl _

/-- A join finds the columns that it names when its conditions are on the same ones in another order. -/
theorem checkJoin_perm (registry : Registry) (steps : List JoinStep) (step : JoinStep)
    {predicates others : List Predicate} {sources : List Relation} {source : Nat}
    (columns : (others.map (·.column)).Perm (predicates.map (·.column)))
    (checked : checkJoin sources (planJoin registry steps step predicates, source) = .ok ()) :
    checkJoin sources (planJoin registry steps step others, source) = .ok () := by
  -- The keys stay, and the columns of the conditions are only reordered.
  obtain ⟨key, parent, conditions⟩ := checkJoin_ok.mp checked
  refine checkJoin_ok.mpr ⟨by simpa using key, by simpa using parent, ?_⟩
  exact forall_column_of_perm
    (P := fun column => (sourceAt sources source).hasColumn (readBack column) = true)
    (planJoin_conditions_perm registry steps step columns) conditions

/-- Every join of the other statement has a partner that differs in its predicates only. -/
theorem Planning.Rephrased.partner (rephrased : parts.Rephrased moved) {paired : Join} {i : Nat}
    (at_ : moved.plan.statement.joins[i]? = some paired) :
    ∃ step predicates others, parts.plan.statement.joins[i]? =
        some (planJoin registry parts.order.steps step predicates) ∧
      paired = planJoin registry parts.order.steps step others ∧
      (others.map (·.column)).Perm (predicates.map (·.column)) := by
  -- Both statements have as many joins, and they are paired by position.
  obtain ⟨length, each⟩ := List.forall₂_iff_get.mp rephrased.joins
  obtain ⟨short, rfl⟩ := List.getElem?_eq_some_iff.mp at_
  have shorter : i < parts.plan.statement.joins.length := length ▸ short
  obtain ⟨step, predicates, others, pair, join, same⟩ := each i shorter short
  refine ⟨step, predicates, others, ?_, same, pair.columns⟩
  rw [List.getElem?_eq_getElem shorter]
  exact congrArg some join

/-- A join names the same in other words. -/
theorem Planning.Rephrased.namesNoMore (rephrased : parts.Rephrased moved) (database : Database)
    {paired : Join} (member : paired ∈ moved.plan.statement.joins) :
    ∃ join ∈ parts.plan.statement.joins, paired.NamesNoMore database join := by
  obtain ⟨i, at_⟩ := List.mem_iff_getElem?.mp member
  obtain ⟨step, predicates, others, found, rfl, columns⟩ := rephrased.partner at_
  -- Its ranking has the predicates of the partner in another order.
  refine ⟨_, List.mem_of_getElem? found, by simp, fun passed => ?_, fun passed => ?_⟩
  · rwa [planJoin_checkOrder_congr registry parts.order.steps _ step predicates]
  · exact planJoin_checkRanking_perm registry _ step columns passed

/-- A statement that names nothing that is not there does so in other words. -/
theorem Planning.Rephrased.check (rephrased : parts.Rephrased moved)
    (main : (moved.plan.statement.conditions.map (·.column)).Perm
      (parts.plan.statement.conditions.map (·.column)))
    (checked : parts.plan.statement.check database parts.plan.parameters = .ok ()) :
    moved.plan.statement.check database moved.plan.parameters = .ok () := by
  obtain ⟨_, _, _, columns, conditions, joins, order, cap⟩ := Statement.check_ok_iff.mp checked
  have sources := rephrased.sources database
  obtain ⟨orders, tables, rankings⟩ := Statement.found_of_partners rephrased.table
    (fun _ member => rephrased.namesNoMore database member) checked
  refine Statement.check_ok_iff.mpr ⟨orders, tables, rankings, ?_, ?_, ?_, ?_, ?_⟩
  -- Columns are found in the same sources.
  · rw [sources, rephrased.columns]
    exact columns
  · rw [sources]
    exact forall_column_of_perm (P := fun column => checkColumn _ ⟨0, column⟩ = .ok ()) main conditions
  · rintro ⟨paired, place⟩ member
    obtain ⟨least, at_⟩ := List.mem_zipIdx_iff_le_and_getElem?_sub.mp member
    obtain ⟨step, predicates, others, found, rfl, columns⟩ := rephrased.partner at_
    rw [sources]
    exact checkJoin_perm registry _ step columns
      (joins _ (List.mem_zipIdx_iff_le_and_getElem?_sub.mpr ⟨least, found⟩))
  · rw [sources, rephrased.order]
    exact order
  · change fitsInt64 moved.cap = true
    rw [rephrased.cap]
    exact cap

/-- The wording in which documents differ in the order of their keys and operators only. -/
def Wording.keyOrder : Wording where
  names := Eq
  texts := Eq
  documents := Value.Reordered
  filters := Filter.Reordered
  unnamed := rfl
  folded := fun _ _ same => congrArg lowered same.symm
  read := fun _ _ reordered => reordered.filters

/-- Reordered filters are rephrased for every entity, and so is a missing one. -/
theorem Filter.Reordered.rephrases_option {filter changed : Option Filter}
    (reordered : Option.Rel Filter.Reordered filter changed) (entity : EntitySchema) :
    entity.Rephrases filter changed := by
  -- No filter is one in other words of none.
  cases reordered with
  | none => exact ⟨.success (.refl _), .refl _, rfl⟩
  | some same => exact same.rephrases entity

/-- A step that can be planned can be planned in other words. -/
theorem JoinStep.Refiltered.plannable {step changed : JoinStep}
    (refiltered : step.Refiltered EntitySchema.Rephrases changed)
    (plannable : step.Plannable registry) : changed.Plannable registry := by
  -- The filter is planned from any place on, and the cap is the same.
  obtain ⟨⟨place, planned, built⟩, written⟩ := plannable
  obtain ⟨found, builtToo, _⟩ := refiltered.filter.planFilter built place
  refine ⟨⟨place, found, by rwa [refiltered.entity]⟩, ?_⟩
  rwa [Registry.checkEntityLimit, refiltered.filter.entityLimit registry]

/-- A query that is planned is planned with its filters in another order of keys. -/
theorem Planning.exists_rephrased (parts : Planning registry query)
    (retold : query.Retold .keyOrder other) :
    ∃ moved : Planning registry other, parts.Rephrased moved ∧
      (moved.plan.statement.conditions.map (·.column)).Perm
        (parts.plan.statement.conditions.map (·.column)) := by
  have primary : query.primary = other.primary := retold.primary
  have required : SameOutcome Filter.Reordered query.requiredFilter other.requiredFilter :=
    Query.requiredFilter_related (fun _ _ => Filter.Reordered.isEmpty) retold.filter
  obtain ⟨filter, filtered, reordered⟩ := required.exists_ok parts.filtered
  -- The requests are joined in the same order.
  have requests : List.Forall₂ (RelatedRequest.Refiltered registry EntitySchema.Rephrases)
      query.related other.related :=
    retold.related.imp fun request changed same =>
      ⟨same.entity.symm, same.parent.symm, fun entity _ =>
        Filter.Reordered.rephrases_option same.filter entity⟩
  obtain ⟨order, ordered, same⟩ :=
    (JoinOrder.ofRequests_refiltered requests).exists_ok parts.ordered
  -- Every filter is planned as before, with its values at other places.
  have plannable : ∀ step ∈ order.steps, step.Plannable registry := by
    intro step member
    obtain ⟨found, inside, refiltered⟩ := exists_left_of_aligned same.steps member
    exact refiltered.plannable (plannable_of_planJoins parts.joined found inside)
  obtain ⟨joins, joined⟩ := exists_planJoins order.steps plannable 0
  obtain ⟨main, narrowed, columns⟩ :=
    (reordered.rephrases parts.primary).planFilter parts.narrowed joins.parameters.length
  have capped : other.plannedCap registry = .ok (parts.rowLimit, parts.cap) := by
    rw [Query.plannedCap, retold.maxRows]
    exact parts.capped
  let moved : Planning registry other :=
    ⟨filter, parts.primary, order, joins, main, parts.rowLimit, parts.cap, primary ▸ parts.named,
      filtered, primary ▸ parts.required, ordered, joined, narrowed, capped⟩
  refine ⟨moved, ⟨rfl, ?_, same.steps, same.warnings parts.primary, rfl⟩, columns⟩
  rw [Query.requiredFilter_ok parts.filtered, Query.requiredFilter_ok filtered]
  exact reordered.rephrases parts.primary

/-- The same fields are left out, up to order. -/
theorem Planning.Rephrased.rejectedFields (rephrased : parts.Rephrased moved) :
    moved.plan.rejectedFields.Perm parts.plan.rejectedFields := by
  -- Every filter leaves out the same keys.
  have joins : moved.joins.rejected.Perm parts.joins.rejected := by
    rw [planJoins_rejected parts.joined, planJoins_rejected moved.joined]
    refine List.Perm.flatten_congr (List.forall₂_map_left_iff.mpr (List.forall₂_map_right_iff.mpr ?_))
    refine rephrased.steps.flip.imp fun changed step refiltered => ?_
    rw [refiltered.entity]
    exact refiltered.filter.closed
  have main : moved.main.rejected.Perm parts.main.rejected := by
    rw [planFilter_rejected parts.narrowed, planFilter_rejected moved.narrowed, rephrased.primary,
      ← Query.requiredFilter_ok parts.filtered, ← Query.requiredFilter_ok moved.filtered]
    exact rephrased.filter.closed
  exact joins.append main

end Joinery
