import Joinery.Proofs.Database.Ranking
import Joinery.Proofs.Plan.Chains

/-! A related entity with a cap is matched by the first admitted rows of each joining value. -/

namespace Joinery

/-- The rows of a source that a join links to a row of its parent. -/
def Join.linked (join : Join) (sources : List Relation) (source : Relation)
    (parameters : List Parameter) (parentRow : Row) : List Row :=
  source.rows.filter (join.links sources source parameters parentRow)

/-- A join without a cap: its conditions stand beside its keys. -/
def Join.uncapped (join : Join) : Join :=
  { join with ranking := none, conditions := join.predicates }

/-- Whether comparing the keys of a join with those of its parent leaves them as they are stored. -/
def Join.Settled (join : Join) (sources : List Relation) (source : Relation) : Prop :=
  let key := readBack join.key
  let affinity := (source.affinity key).joint (join.parent.affinity sources)
  ∀ row ∈ source.rows, affinity.apply (source.cell key row) = source.cell key row

/-- The ranking of a step with a cap: by the key of its join, in the order of its entity. -/
def JoinStep.rankedBy (step : JoinStep) (predicates : List Predicate) (cap : Int) : Ranking :=
  ⟨(joinKeys step.parent step.entity).child, step.entity.defaultOrderBy, predicates, cap⟩

/-- What a join with a cap can match of a table: of each key the first admitted rows. -/
structure Join.MatchesFirst (join : Join) (sources : List Relation) (source table : Relation)
    (parameters : List Parameter) (key : String) (terms : List OrderTerm) (cap : Nat)
    (admits : Row → Bool) : Prop where
  /-- The rows of a key that can be matched are the first admitted ones, each with its rank. -/
  first : ∀ value, ∃ kept, source.ofKey key value source.rows = numberedRows kept ∧
    table.KeepsFirst terms cap (table.ofKey key value (table.rows.filter admits)) kept
  /-- Of one key no more rows are joined to a row of the parent than the cap says. -/
  bounded : ∀ value parentRow,
    (source.ofKey key value (join.linked sources source parameters parentRow)).length ≤ cap
  /-- Nor are more in all, where all the rows that are joined to it have one key. -/
  total : ∀ parentRow, (∀ row ∈ join.linked sources source parameters parentRow,
      ∀ other ∈ join.linked sources source parameters parentRow,
        (source.cell key row).same (source.cell key other) = true) →
    (join.linked sources source parameters parentRow).length ≤ cap
  /-- This is so for every row of the parent when the keys are compared as they are stored. -/
  settled : join.Settled sources source → ∀ parentRow,
    (join.linked sources source parameters parentRow).length ≤ cap
  /-- A key with no more admitted rows than the cap says is matched as it is without a cap. -/
  whole : ∀ value parentRow,
    (table.ofKey key value (table.rows.filter admits)).length ≤ cap →
      ((source.ofKey key value (join.linked sources source parameters parentRow)).map
        List.dropLast).Perm
          (table.ofKey key value (join.uncapped.linked sources table parameters parentRow))

variable {join : Join} {ranking : Ranking} {sources : List Relation} {source relation : Relation}
  {parameters : List Parameter} {key : String} {cap : Nat} {parentRow : Row}

/-- Without its ranks a numbered row is the row that was numbered. -/
theorem map_dropLast_filter_numberedRows {kept : List Row} {chosen : Row → Bool}
    {wanted : Row → Bool}
    (same : ∀ row ∈ kept, ∀ rank, chosen (rankedRow (row, rank)) = wanted row) :
    ((numberedRows kept).filter chosen).map List.dropLast = kept.filter wanted := by
  -- The rank is the last cell, and what is chosen does not depend on it.
  have agree : ∀ ranked ∈ kept.zipIdx 1, (chosen ∘ rankedRow) ranked = (wanted ∘ Prod.fst) ranked :=
    fun ranked member => same _ (List.fst_mem_of_mem_zipIdx member) ranked.2
  have undone : List.dropLast ∘ rankedRow = Prod.fst := by
    funext ranked
    simp [rankedRow]
  rw [numberedRows, List.filter_map, List.map_map, undone, List.filter_congr agree,
    ← List.filter_map, List.zipIdx_map_fst]

/-- Cells that are equal have one place. -/
theorem Cell.same_of_equals {a b : Cell} (equal : (a.equals b).holds = true) : a.same b = true := by
  -- Where a value is missing, equality stays open.
  simp only [Cell.equals, Cell.compare?] at equal
  split at equal
  · contradiction
  · simpa [Truth.holds, Cell.same] using equal

/-- Rows that are joined to one row of the parent have one key, when keys are compared as stored. -/
theorem Join.Settled.same (settled : join.Settled sources source) {row other : Row}
    (left : row ∈ join.linked sources source parameters parentRow)
    (right : other ∈ join.linked sources source parameters parentRow) :
    (source.cell (readBack join.key) row).same (source.cell (readBack join.key) other) = true := by
  -- Both keys have the place of the parent's value.
  let affinity := (source.affinity (readBack join.key)).joint (join.parent.affinity sources)
  have place : ∀ linked ∈ join.linked sources source parameters parentRow,
      (source.cell (readBack join.key) linked).same (affinity.apply
        ((sourceAt sources join.parent.source).cell (readBack join.parent.column) parentRow)) =
          true := by
    intro linked member
    obtain ⟨inside, agree⟩ := List.mem_filter.mp member
    rw [Join.links, Bool.and_eq_true] at agree
    have equal := Cell.same_of_equals agree.1
    change Cell.same (affinity.apply _) _ = true at equal
    rwa [settled linked inside] at equal
  rw [Cell.same_congr (place row left), Cell.same_comm]
  exact place other right

/-- Columns with one preference are compared as they are stored. -/
theorem Join.settled_of_affinity
    (one : source.affinity (readBack join.key) = join.parent.affinity sources) :
    join.Settled sources source := by
  -- Where both prefer the same, nothing is left to be converted.
  intro row _
  rw [one]
  cases join.parent.affinity sources <;> rfl

/-- A join with a cap links a ranked row when its keys agree. -/
theorem Join.links_ranked (bare : join.conditions = [])
    (found : relation.hasColumn (readBack join.key) = true) {row : Row}
    (member : row ∈ relation.rows) (rank : Nat) :
    join.links sources (relation.ranked ranking parameters) parameters parentRow
        (rankedRow (row, rank)) =
      columnsAgree relation (readBack join.key) (sourceAt sources join.parent.source)
        (readBack join.parent.column) row parentRow := by
  -- Its conditions were used up inside the ranking, and the key stands before the rank.
  rw [Join.links, bare, columnsAgree, Relation.cell_ranked ranking parameters found member,
    Relation.affinity_ranked ranking parameters found]
  exact Bool.and_true _

/-- Without its cap a join links a row for which its conditions hold when its keys agree. -/
theorem Join.links_uncapped (ranked : join.ranking = some ranking) (bare : join.conditions = [])
    (row : Row) :
    join.uncapped.links sources relation parameters parentRow row =
      (columnsAgree relation (readBack join.key) (sourceAt sources join.parent.source)
        (readBack join.parent.column) row parentRow &&
          satisfies ranking.conditions parameters relation row) := by
  -- The conditions of its ranking come back to its keys.
  have conditions : join.uncapped.conditions = ranking.conditions := by
    simp [Join.uncapped, Join.predicates, ranked, bare]
  rw [Join.links, conditions]
  rfl

/-- Of one key no more rows are joined to a row of the parent than can be matched. -/
theorem Join.length_ofKey_linked_le {value : Cell} {kept : List Row}
    (matched : source.ofKey key value source.rows = numberedRows kept) :
    (source.ofKey key value (join.linked sources source parameters parentRow)).length ≤
      kept.length := by
  -- The linked rows are among all rows.
  have among : (source.ofKey key value (join.linked sources source parameters parentRow)).Sublist
      (numberedRows kept) := matched ▸ List.filter_sublist.filter _
  simpa [numberedRows] using among.length_le

/-- When all rows that are joined to a row of the parent have one key, they are as few as those of it. -/
theorem Join.length_linked_le (bounded : ∀ value,
      (source.ofKey key value (join.linked sources source parameters parentRow)).length ≤ cap)
    (one : ∀ row ∈ join.linked sources source parameters parentRow,
      ∀ other ∈ join.linked sources source parameters parentRow,
        (source.cell key row).same (source.cell key other) = true) :
    (join.linked sources source parameters parentRow).length ≤ cap := by
  -- They are all of the key of the first one.
  cases linked : join.linked sources source parameters parentRow with
  | nil => exact Nat.zero_le cap
  | cons row rest =>
    rw [linked] at bounded one
    have all := bounded (source.cell key row)
    rwa [Relation.ofKey, List.filter_eq_self.mpr fun other member =>
      one other member row List.mem_cons_self] at all

/-- A key of which the ranking keeps all admitted rows is matched as it is without a cap. -/
theorem Join.perm_uncapped (ranked : join.ranking = some ranking) (bare : join.conditions = [])
    (found : relation.hasColumn (readBack join.key) = true)
    {value : Cell} {kept : List Row}
    (matched : (relation.ranked ranking parameters).ofKey key value
      (relation.ranked ranking parameters).rows = numberedRows kept)
    (all : kept.Perm (relation.ofKey key value
      (relation.restrict ranking.conditions parameters))) :
    (((relation.ranked ranking parameters).ofKey key value
        (join.linked sources (relation.ranked ranking parameters) parameters parentRow)).map
          List.dropLast).Perm
      (relation.ofKey key value (join.uncapped.linked sources relation parameters parentRow)) := by
  -- Without their ranks the linked rows are the kept ones of which the keys agree.
  let agrees (row : Row) : Bool := columnsAgree relation (readBack join.key)
    (sourceAt sources join.parent.source) (readBack join.parent.column) row parentRow
  have links : ∀ row ∈ kept, ∀ rank, join.links sources (relation.ranked ranking parameters)
      parameters parentRow (rankedRow (row, rank)) = agrees row := fun row member rank =>
    Join.links_ranked bare found
      (List.mem_of_mem_filter (List.mem_of_mem_filter (all.mem_iff.mp member))) rank
  have capped : ((relation.ranked ranking parameters).ofKey key value (join.linked sources
      (relation.ranked ranking parameters) parameters parentRow)).map List.dropLast =
        kept.filter agrees := by
    rw [← map_dropLast_filter_numberedRows links, ← matched, Relation.ofKey, Relation.ofKey,
      Join.linked, List.filter_comm]
  have uncapped : relation.ofKey key value
      (join.uncapped.linked sources relation parameters parentRow) =
        (relation.ofKey key value (relation.restrict ranking.conditions parameters)).filter
          agrees := by
    have same : join.uncapped.links sources relation parameters parentRow = fun row =>
        agrees row && satisfies ranking.conditions parameters relation row :=
      funext fun row => Join.links_uncapped ranked bare row
    rw [Join.linked, same, ← List.filter_filter, Relation.ofKey, Relation.ofKey, List.filter_comm]
    rfl
  rw [capped, uncapped]
  exact all.filter _

/-- When a group is not larger than the cap, all of it is kept. -/
theorem Relation.KeepsFirst.all {terms : List OrderTerm} {group kept : List Row}
    (first : relation.KeepsFirst terms cap group kept) (few : group.length ≤ cap) :
    kept.Perm group := by
  -- There are as many kept rows as rows, so none is dropped.
  obtain ⟨dropped, permuted, _, length⟩ := first
  have none : dropped = [] := by
    have sum := permuted.length_eq
    rw [List.length_append] at sum
    exact List.eq_nil_of_length_eq_zero (by omega)
  rwa [none, List.append_nil] at permuted

/-- A ranking by the key of a join makes it match the first admitted rows of each key. -/
theorem Join.matchesFirst (sources : List Relation) (parameters : List Parameter)
    (keyed : ranking.key = join.key) (ranked : join.ranking = some ranking)
    (bare : join.conditions = []) (unranked : relation.hasColumn rankColumn = false)
    (found : relation.hasColumn (readBack join.key) = true) :
    join.MatchesFirst sources (relation.ranked ranking parameters) relation parameters
      (readBack join.key) ranking.terms ranking.cap.toNat
      (satisfies ranking.conditions parameters relation) := by
  -- Everything follows from what the ranking keeps of a key.
  have first : ∀ value, ∃ kept, (relation.ranked ranking parameters).ofKey (readBack ranking.key)
      value (relation.ranked ranking parameters).rows = numberedRows kept ∧ _ :=
    Relation.ofKey_ranked unranked (keyed.symm ▸ found)
  rw [keyed] at first
  have bounded : ∀ value parentRow, ((relation.ranked ranking parameters).ofKey (readBack join.key)
      value (join.linked sources (relation.ranked ranking parameters) parameters
        parentRow)).length ≤ ranking.cap.toNat := by
    intro value parentRow
    obtain ⟨kept, matched, _, _, _, length⟩ := first value
    exact Nat.le_trans (Join.length_ofKey_linked_le matched) (length ▸ Nat.min_le_left _ _)
  refine ⟨first, bounded, fun parentRow one => Join.length_linked_le (bounded · parentRow) one,
    fun settled parentRow => Join.length_linked_le (bounded · parentRow)
      fun row left other right => settled.same left right, ?_⟩
  intro value parentRow few
  obtain ⟨kept, matched, keeps⟩ := first value
  exact Join.perm_uncapped ranked bare found matched (keeps.all few)

/-- A column that stands beside the ranks without being named like them was there before. -/
theorem Relation.hasColumn_of_ranked {name : String}
    (found : (relation.ranked ranking parameters).hasColumn name = true)
    (named : sameIdentifier rankColumn name = false) : relation.hasColumn name = true := by
  -- It is one of the former columns, as the last one has another name.
  rw [Relation.hasColumn, Relation.position?, List.findIdx?_isSome] at found ⊢
  simpa [Relation.ranked, Relation.keep, Relation.withRankColumn, named] using found

/-- A positive cap on the records of an entity is bounded by the largest one. -/
theorem Registry.entityLimit_pos {registry : Registry} {filter : Option Filter} {limit : Int}
    (limited : filter.bind Filter.limit = some limit) (positive : 0 < limit) :
    registry.entityLimit filter = some (min limit registry.maxLimit) := by
  -- Only a cap that is not positive counts as none.
  rw [Registry.entityLimit, limited]
  exact if_neg (by omega)

/-- A join with a ranking can match what the ranking keeps of its table. -/
theorem Join.source_of_ranking (ranked : join.ranking = some ranking) (database : Database)
    (parameters : List Parameter) :
    join.source database parameters =
      (database.tableOrEmpty join.table).ranked ranking parameters := by
  -- Only a join without a ranking can match its whole table.
  simp only [Join.source, ranked]

/-- A step with a cap ranks the records that its predicates describe, and joins by the key alone. -/
theorem planJoin_capped {registry : Registry} {step : JoinStep} {limit : Int}
    (capped : registry.entityLimit step.filter = some limit) (steps : List JoinStep)
    (predicates : List Predicate) :
    (planJoin registry steps step predicates).table = step.entity.tableName ∧
      (planJoin registry steps step predicates).ranking =
        some (step.rankedBy predicates limit) ∧
      (planJoin registry steps step predicates).conditions = [] := by
  -- The cap decides about the form of a join.
  simp [planJoin, capped, JoinStep.rankedBy]

/-- Without its cap the join of a step is the one that is planned when the filter sets no cap. -/
theorem planJoin_uncapped (registry : Registry) (steps : List JoinStep) (step : JoinStep)
    (predicates : List Predicate) :
    (planJoin registry steps step predicates).uncapped =
      planJoin registry steps { step with filter := none } predicates := by
  -- The conditions are the same, inside a ranking or outside.
  have none : registry.entityLimit none = none := rfl
  simp only [planJoin, none]
  split <;> simp [Join.uncapped, Join.predicates]

/-- A step with a cap has its join, which ranks what the filter of the step admits. -/
theorem Planning.capped_at {registry : Registry} {query : Query} (parts : Planning registry query)
    {i : Nat} {step : JoinStep} {limit : Int} (at_ : parts.order.steps[i]? = some step)
    (capped : registry.entityLimit step.filter = some limit) :
    ∃ join predicates, parts.plan.statement.joins[i]? = some join ∧
      join.table = step.entity.tableName ∧ join.key = (joinKeys step.parent step.entity).child ∧
      join.ranking = some (step.rankedBy predicates limit) ∧ join.conditions = [] ∧
      ∀ relation, satisfies predicates parts.plan.parameters relation =
        step.entity.admits step.filter relation := by
  -- The join of the step is planned with the cap.
  obtain ⟨predicates, placed, admits⟩ := parts.join_at at_
  obtain ⟨table, ranked, bare⟩ := planJoin_capped capped parts.order.steps predicates
  exact ⟨_, predicates, placed, table, planJoin_key .., ranked, bare,
    fun relation => funext (admits relation)⟩

end Joinery
