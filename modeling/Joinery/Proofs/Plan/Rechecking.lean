import Joinery.Proofs.Database.Checking
import Joinery.Proofs.Plan.Columns
import Joinery.Proofs.Plan.Rearranging

/-! What a statement names and reads is there in whatever order its sources are joined. -/

namespace Joinery

variable {registry : Registry} {query asked : Query} {parts : Planning registry query}
  {moved : Planning registry asked} {database : Database}

/-- The order of a ranking is checked alike wherever its join stands. -/
theorem planJoin_checkOrder_congr (registry : Registry) (steps moved : List JoinStep)
    (step : JoinStep) (predicates others : List Predicate) :
    (planJoin registry moved step others).checkOrder =
      (planJoin registry steps step predicates).checkOrder := by
  -- The order is that of the entity, with a cap or without one.
  unfold planJoin
  split <;> rfl

/-- So are the columns inside a ranking, as long as its predicates are on the same columns. -/
theorem planJoin_checkRanking_congr (registry : Registry) (steps moved : List JoinStep)
    (step : JoinStep) {predicates others : List Predicate}
    (columns : others.map (·.column) = predicates.map (·.column)) (database : Database) :
    (planJoin registry moved step others).checkRanking database =
      (planJoin registry steps step predicates).checkRanking database := by
  unfold planJoin
  split
  · rfl
  · -- The conditions are checked by their columns.
    simp only [Join.checkRanking, Ranking.terms]
    rw [← checkAll_map (checkPlainColumn _) (·.column) others, columns, checkAll_map]

/-- The conditions beside the keys are on the same columns. -/
theorem planJoin_conditions_columns (registry : Registry) (steps moved : List JoinStep)
    (step : JoinStep) {predicates others : List Predicate}
    (columns : others.map (·.column) = predicates.map (·.column)) :
    (planJoin registry moved step others).conditions.map (·.column) =
      (planJoin registry steps step predicates).conditions.map (·.column) := by
  -- With a cap there are none beside the keys.
  unfold planJoin
  split
  · exact columns
  · rfl

/-- The primary predicates are on the same columns in any order of the joins. -/
theorem Planning.Rearranged.conditions_columns (rearranged : parts.Rearranged moved) :
    moved.plan.statement.conditions.map (·.column) =
      parts.plan.statement.conditions.map (·.column) := by
  -- The filter is planned behind the values of the joins, wherever that is.
  have filter : moved.filter = parts.filter := by
    have given := Query.requiredFilter_ok moved.filtered
    rw [rearranged.filter, Query.requiredFilter_ok parts.filtered] at given
    exact (Option.some.inj given).symm
  obtain ⟨main, same, columns⟩ :=
    planFilter_place parts.narrowed moved.joins.parameters.length
  have narrowed := moved.narrowed
  rw [rearranged.primary, filter] at narrowed
  cases same.symm.trans narrowed
  exact columns

/-- A join is found in the other order where it is found in this one. -/
theorem Planning.Rearranged.checkJoin (rearranged : parts.Rearranged moved) {i j : Nat}
    {step : JoinStep} {predicates others : List Predicate}
    (pair : Rearranged.Pair parts moved i j step predicates others)
    (checked : Joinery.checkJoin (parts.plan.statement.sources database parts.plan.parameters)
      (planJoin registry parts.order.steps step predicates, i + 1) = .ok ()) :
    Joinery.checkJoin (moved.plan.statement.sources database moved.plan.parameters)
      (planJoin registry moved.order.steps step others, j + 1) = .ok () := by
  obtain ⟨key, parent, conditions⟩ := checkJoin_ok.mp checked
  have own := rearranged.sourceAt_eq database (moved.entity_at pair.placedToo)
  obtain ⟨above, at_, _⟩ := moved.exists_parent pair.placedToo
  have hung := rearranged.sourceAt_eq database at_
  rw [pair.place] at own
  rw [parts.placeOf_parent moved pair.placedToo] at hung
  refine checkJoin_ok.mpr ⟨?_, ?_, ?_⟩
  · simpa [own] using key
  · simpa [hung] using parent
  · -- Both have their conditions on the same columns.
    have columns := planJoin_conditions_columns registry parts.order.steps moved.order.steps step
      pair.columns
    rw [own]
    rw [← List.forall_mem_map (f := Predicate.column)
      (P := fun column => (sourceAt _ (i + 1)).hasColumn (readBack column) = true)] at conditions ⊢
    rwa [columns]

/-- So is a column of any source. -/
theorem Planning.Rearranged.checkColumn (rearranged : parts.Rearranged moved) {source : Nat}
    {entity : EntitySchema} {column : String} (at_ : moved.entities[source]? = some entity)
    (checked : Joinery.checkColumn (parts.plan.statement.sources database parts.plan.parameters)
      ⟨parts.placeOf moved source, column⟩ = .ok ()) :
    Joinery.checkColumn (moved.plan.statement.sources database moved.plan.parameters)
      ⟨source, column⟩ = .ok () := by
  -- The source at its place has the same columns.
  have found := demand_ok.mp checked
  refine demand_ok.mpr ?_
  simp only [rearranged.sourceAt_eq database at_]
  exact found

/-- Every join of the other statement has its partner. -/
theorem Planning.Rearranged.exists_partner (rearranged : parts.Rearranged moved) {paired : Join}
    {j : Nat} (at_ : moved.plan.statement.joins[j]? = some paired) :
    ∃ i step predicates others, Rearranged.Pair parts moved i j step predicates others ∧
      paired = planJoin registry moved.order.steps step others := by
  -- A join belongs to a step, and the step has its place in the other planning, too.
  obtain ⟨step, _, placed, _, _⟩ := moved.step_at at_
  obtain ⟨i, predicates, others, pair⟩ := rearranged.exists_pair placed
  exact ⟨i, step, predicates, others, pair, Option.some.inj (at_.symm.trans pair.joinToo)⟩

/-- A join names the same wherever it stands. -/
theorem Planning.Rearranged.namesNoMore (rearranged : parts.Rearranged moved) (database : Database)
    {paired : Join} (member : paired ∈ moved.plan.statement.joins) :
    ∃ join ∈ parts.plan.statement.joins, paired.NamesNoMore database join := by
  obtain ⟨j, at_⟩ := List.mem_iff_getElem?.mp member
  obtain ⟨i, step, predicates, others, pair, rfl⟩ := rearranged.exists_partner at_
  -- The partner has the table of the same entity, its order, and predicates on the same columns.
  refine ⟨_, List.mem_of_getElem? pair.join, by simp, fun passed => ?_, fun passed => ?_⟩
  · rwa [planJoin_checkOrder_congr registry parts.order.steps _ step predicates]
  · rwa [planJoin_checkRanking_congr registry parts.order.steps _ step pair.columns]

/-- A statement that names nothing that is not there does so in any order of its joins. -/
theorem Planning.Rearranged.check (rearranged : parts.Rearranged moved)
    (checked : parts.plan.statement.check database parts.plan.parameters = .ok ()) :
    moved.plan.statement.check database moved.plan.parameters = .ok () := by
  obtain ⟨_, _, _, columns, conditions, joins, order, cap⟩ := Statement.check_ok_iff.mp checked
  have table : moved.plan.statement.table = parts.plan.statement.table :=
    congrArg EntitySchema.tableName rearranged.primary
  obtain ⟨orders, tables, rankings⟩ := Statement.found_of_partners table
    (fun _ member => rearranged.namesNoMore database member) checked
  refine Statement.check_ok_iff.mpr ⟨orders, tables, rankings, ?_, ?_, ?_, ?_, ?_⟩
  -- Columns are found at the places of their sources.
  · intro selected member
    obtain ⟨source, entity, field, at_, declared, rfl⟩ := moved.mem_columns.mp member
    have returned := parts.mem_columns.mpr
      ⟨_, entity, field, rearranged.entity_at at_, declared, rfl⟩
    have found := columns ⟨⟨parts.placeOf moved source, field⟩, entity.columnLabel field⟩ returned
    exact rearranged.checkColumn at_ found
  · intro predicate member
    have among : predicate.column ∈ parts.plan.statement.conditions.map (·.column) := by
      rw [← rearranged.conditions_columns]
      exact List.mem_map_of_mem member
    obtain ⟨other, inside, same⟩ := List.mem_map.mp among
    have own : moved.entities[0]? = some moved.primary := rfl
    refine rearranged.checkColumn own ?_
    rw [rearranged.placeOf_zero, ← same]
    exact conditions other inside
  -- The places of the joins are found through their partners.
  · rintro ⟨paired, place⟩ member
    obtain ⟨least, at_⟩ := List.mem_zipIdx_iff_le_and_getElem?_sub.mp member
    obtain ⟨j, rfl⟩ := Nat.exists_eq_add_of_le' least
    obtain ⟨i, step, predicates, others, pair, rfl⟩ := rearranged.exists_partner at_
    refine rearranged.checkJoin pair (joins _ ?_)
    exact List.mem_zipIdx_iff_le_and_getElem?_sub.mpr ⟨by omega, by simpa using pair.join⟩
  · intro ref member
    obtain ⟨source, entity, at_, rfl⟩ := moved.mem_order.mp member
    exact rearranged.checkColumn at_
      (order _ (parts.mem_order.mpr ⟨_, entity, rearranged.entity_at at_, rfl⟩))
  · change fitsInt64 moved.cap = true
    rw [rearranged.cap]
    exact cap

end Joinery
