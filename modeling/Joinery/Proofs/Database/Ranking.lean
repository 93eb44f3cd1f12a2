import Joinery.Proofs.Database.Sorting
import Mathlib.Data.List.GetD

/-! A ranking with a cap keeps the first rows of each key, in the order that it was given. -/

namespace Joinery

open Std (TransCmp)

variable {relation : Relation} {key name : String} {terms : List OrderTerm} {value : Cell}
  {ranking : Ranking} {parameters : List Parameter}

/-- The rows among others that have a value in a column. -/
def Relation.ofKey (relation : Relation) (key : String) (value : Cell) (rows : List Row) : List Row :=
  rows.filter fun row => (relation.cell key row).same value

/-- Whether rows are the first ones of a group, as many as a cap says, in a sorted order of the group. -/
def Relation.KeepsFirst (relation : Relation) (terms : List OrderTerm) (cap : Nat)
    (group kept : List Row) : Prop :=
  ∃ dropped, (kept ++ dropped).Perm group ∧
    ((kept ++ dropped).Pairwise fun a b => compareTerms relation terms a b ≠ .gt) ∧
    kept.length = min cap group.length

/-- Rows with their places, counted from one, in a cell at their end. -/
def numberedRows (rows : List Row) : List Row := (rows.zipIdx 1).map rankedRow

/-- Cells of one place are told apart from the same cells. -/
theorem Cell.same_congr {a b : Cell} (same : a.same b = true) (c : Cell) : a.same c = b.same c := by
  -- In a transitive order equal cells compare alike.
  rw [Cell.same, Cell.same, TransCmp.congr_left (beq_iff_eq.mp same)]

/-- Within one key ranks count the rows one by one. -/
theorem filter_withRanks (before rows : List Row) :
    (withRanks (relation.together key) before rows).filter
        (fun ranked => (relation.cell key ranked.1).same value) =
      (relation.ofKey key value rows).zipIdx ((relation.ofKey key value before).length + 1) := by
  -- A row of the key counts the rows before it that are together with it, which are those of the key.
  induction rows generalizing before with
  | nil => rfl
  | cons row rest ih =>
    rw [withRanks, List.filter_cons, ih]
    cases same : (relation.cell key row).same value with
    | false => simp [Relation.ofKey, same]
    | true =>
      have counted : before.filter (relation.together key row) =
          relation.ofKey key value before := by
        refine List.filter_congr fun other _ => ?_
        rw [Relation.together, Cell.same_congr same, Cell.same_comm]
      simp only [if_true, counted, Relation.ofKey, List.filter_cons, same, List.zipIdx_cons,
        List.length_cons]

/-- The ranks within a cap are those of the first rows. -/
theorem filter_zipIdx_le {α : Type} (rows : List α) (start : Nat) (cap : Int) :
    (rows.zipIdx start).filter (fun ranked => decide ((ranked.2 : Int) ≤ cap)) =
      (rows.take (cap + 1 - start).toNat).zipIdx start := by
  -- Ranks grow by one from row to row, so behind the first one beyond the cap all are beyond it.
  induction rows generalizing start with
  | nil => simp
  | cons row rest ih =>
    rw [List.zipIdx_cons, List.filter_cons, ih]
    by_cases within : (start : Int) ≤ cap
    · have more : (cap + 1 - start).toNat = (cap + 1 - (start + 1 : Nat)).toNat + 1 := by omega
      rw [if_pos (decide_eq_true within), more, List.take_succ_cons, List.zipIdx_cons]
    · have none : (cap + 1 - start).toNat = 0 := by omega
      have after : (cap + 1 - (start + 1 : Nat)).toNat = 0 := by omega
      rw [if_neg (by simpa using within), none, after]
      rfl

/-- The rows of one key come in the order of a ranking. -/
theorem Relation.pairwise_ofKey_mergeSort (relation : Relation) (key : String)
    (terms : List OrderTerm) (value : Cell) (rows : List Row) :
    (relation.ofKey key value (rows.mergeSort (relation.rankedBefore key terms))).Pairwise
      fun a b => compareTerms relation terms a b ≠ .gt := by
  -- A ranking goes by its key like by a first term, and rows of one key agree in it.
  have sorted := pairwise_mergeSort_of_cmp (compareTerms relation (⟨key, false⟩ :: terms)) id rows
  refine (sorted.filter _).imp_of_mem fun {a b} inA inB ordered => ?_
  have sameA := (List.mem_filter.mp inA).2
  have together : (relation.cell key a).order (relation.cell key b) = .eq := by
    rw [← beq_iff_eq]
    exact (Cell.same_congr sameA _).trans ((Cell.same_comm _ _).trans (List.mem_filter.mp inB).2)
  simpa [compareTerms, OrderTerm.compare, together] using ordered

/-- The first rows in a sorted order of a group are the first ones of the group. -/
theorem Relation.keepsFirst_take {group ordered : List Row} (cap : Nat)
    (permuted : ordered.Perm group)
    (sorted : ordered.Pairwise fun a b => compareTerms relation terms a b ≠ .gt) :
    relation.KeepsFirst terms cap group (ordered.take cap) := by
  -- What is dropped comes behind them.
  refine ⟨ordered.drop cap, ?_, ?_, ?_⟩
  · rwa [List.take_append_drop]
  · rwa [List.take_append_drop]
  · rw [List.length_take, permuted.length_eq]

/-- A column of a relation stands at its place before the ranks. -/
theorem Relation.position?_withRankColumn {ranks : List (Row × Nat)}
    (inside : ∀ ranked ∈ ranks, ranked.1 ∈ relation.rows) {position : Nat}
    (found : relation.position? name = some position) :
    (relation.withRankColumn ranks inside).position? name = some position := by
  -- The first column of a name is looked for from the front.
  simp only [Relation.position?, Relation.withRankColumn] at found ⊢
  rw [List.findIdx?_append, found]
  rfl

/-- A position stands for a column. -/
theorem Relation.lt_of_position? {position : Nat} (found : relation.position? name = some position) :
    position < relation.columns.length := by
  -- It was found among the columns.
  exact (List.findIdx?_eq_some_iff_findIdx_eq.mp found).1

/-- A rank changes nothing in the columns that were there. -/
theorem Relation.cell_withRankColumn {ranks : List (Row × Nat)}
    (inside : ∀ ranked ∈ ranks, ranked.1 ∈ relation.rows) (found : relation.hasColumn name = true)
    {row : Row} (member : row ∈ relation.rows) (rank : Nat) :
    (relation.withRankColumn ranks inside).cell name (rankedRow (row, rank)) =
      relation.cell name row := by
  -- The cell of the rank stands behind all of them.
  obtain ⟨position, at_⟩ := Option.isSome_iff_exists.mp found
  have before := Relation.lt_of_position? at_
  simp only [Relation.cell, at_, Relation.position?_withRankColumn inside at_, rankedRow]
  exact List.getD_append _ _ _ _ (relation.rectangular row member ▸ before)

/-- A rank changes nothing in what the columns prefer. -/
theorem Relation.affinity_withRankColumn {ranks : List (Row × Nat)}
    (inside : ∀ ranked ∈ ranks, ranked.1 ∈ relation.rows) (found : relation.hasColumn name = true) :
    (relation.withRankColumn ranks inside).affinity name = relation.affinity name := by
  -- The column of ranks stands behind all of them.
  obtain ⟨position, at_⟩ := Option.isSome_iff_exists.mp found
  have before := Relation.lt_of_position? at_
  simp only [Relation.affinity, at_, Relation.position?_withRankColumn inside at_]
  rw [Relation.withRankColumn, List.getElem?_append_left before]

/-- Where no other column has its name, the column of ranks is the last one. -/
theorem Relation.position?_rankColumn {ranks : List (Row × Nat)}
    (inside : ∀ ranked ∈ ranks, ranked.1 ∈ relation.rows)
    (unranked : relation.hasColumn rankColumn = false) :
    (relation.withRankColumn ranks inside).position? rankColumn = some relation.columns.length := by
  -- Nothing is found before it.
  have nowhere : relation.columns.findIdx? (sameIdentifier ·.name rankColumn) = none :=
    Option.isSome_eq_false_iff.mp unranked |> Option.isNone_iff_eq_none.mp
  simp only [Relation.position?, Relation.withRankColumn]
  rw [List.findIdx?_append, nowhere]
  simp [sameIdentifier]

/-- Whole numbers compare as cells like they do by themselves. -/
theorem Cell.compare?_integer (m n : Int) :
    (Cell.integer m).compare? (.integer n) = some (compare m n) := by
  -- Both stand on the grid of ones.
  simp [Cell.compare?, Cell.isNull, Cell.order, Cell.place, CellPlace.order, Magnitude.order,
    compareScaled, powTwo]

/-- The cap looks at the rank, where no other column has its name. -/
theorem Relation.withinCap_withRankColumn {ranks : List (Row × Nat)}
    (inside : ∀ ranked ∈ ranks, ranked.1 ∈ relation.rows)
    (unranked : relation.hasColumn rankColumn = false) {row : Row} (member : row ∈ relation.rows)
    (rank : Nat) (cap : Int) :
    (relation.withRankColumn ranks inside).withinCap cap (rankedRow (row, rank)) =
      decide ((rank : Int) ≤ cap) := by
  -- The column of ranks has no preference, and its cell is the last one.
  have at_ := Relation.position?_rankColumn inside unranked
  have none : (relation.withRankColumn ranks inside).affinity rankColumn = .none := by
    simp only [Relation.affinity, at_]
    simp [Relation.withRankColumn]
  have cell : (relation.withRankColumn ranks inside).cell rankColumn (rankedRow (row, rank)) =
      .integer rank := by
    simp only [Relation.cell, at_, rankedRow]
    simp [← relation.rectangular row member, List.getD_eq_getElem?_getD]
  rw [Relation.withinCap, none, cell]
  simp only [Affinity.apply, Cell.compare?_integer, Option.any_some]
  rw [Bool.eq_iff_iff, bne_iff_ne, decide_eq_true_eq]
  exact Int.compare_ne_gt

/-- A ranking changes nothing in the columns that a table has. -/
theorem Relation.cell_ranked (ranking : Ranking) (parameters : List Parameter)
    (found : relation.hasColumn name = true) {row : Row} (member : row ∈ relation.rows) (rank : Nat) :
    (relation.ranked ranking parameters).cell name (rankedRow (row, rank)) = relation.cell name row := by
  -- The cap leaves out rows, but no columns.
  exact Relation.cell_withRankColumn (relation.mem_of_mem_ranks ranking parameters) found member rank

/-- Nor does it change what they prefer. -/
theorem Relation.affinity_ranked (ranking : Ranking) (parameters : List Parameter)
    (found : relation.hasColumn name = true) :
    (relation.ranked ranking parameters).affinity name = relation.affinity name := by
  -- The cap leaves out rows, but no columns.
  exact Relation.affinity_withRankColumn (relation.mem_of_mem_ranks ranking parameters) found

/-- The rows that are ranked are those for which the conditions of a ranking hold, each of them once. -/
theorem Relation.map_fst_ranks_perm (relation : Relation) (ranking : Ranking)
    (parameters : List Parameter) :
    ((relation.ranks ranking parameters).map Prod.fst).Perm
      (relation.restrict ranking.conditions parameters) := by
  -- Sorting moves rows and loses none.
  rw [ranks, map_fst_withRanks]
  exact List.mergeSort_perm _ _

/-- A ranking keeps ranked rows only, in their order. -/
theorem Relation.rows_ranked_sublist (relation : Relation) (ranking : Ranking)
    (parameters : List Parameter) :
    (relation.ranked ranking parameters).rows.Sublist
      ((relation.ranks ranking parameters).map rankedRow) := by
  -- The cap leaves some of them out.
  exact List.filter_sublist

/-- What a ranking keeps of a table, row by row: those ranked within the cap. -/
theorem Relation.rows_ranked (unranked : relation.hasColumn rankColumn = false) :
    (relation.ranked ranking parameters).rows =
      ((relation.ranks ranking parameters).filter
        fun ranked => decide ((ranked.2 : Int) ≤ ranking.cap)).map rankedRow := by
  -- The cap looks at the ranks.
  simp only [Relation.ranked, keep, withRankColumn, List.filter_map]
  refine congrArg _ (List.filter_congr fun ranked member => ?_)
  have inside := relation.mem_of_mem_ranks ranking parameters
  exact Relation.withinCap_withRankColumn inside unranked (inside ranked member) ranked.2 ranking.cap

/-- Of each key a ranking keeps the first rows for which its conditions hold, with their ranks. -/
theorem Relation.ofKey_ranked (unranked : relation.hasColumn rankColumn = false)
    (keyed : relation.hasColumn (readBack ranking.key) = true) (value : Cell) :
    ∃ kept, (relation.ranked ranking parameters).ofKey (readBack ranking.key) value
          (relation.ranked ranking parameters).rows = numberedRows kept ∧
      relation.KeepsFirst ranking.terms ranking.cap.toNat (relation.ofKey (readBack ranking.key) value
        (relation.restrict ranking.conditions parameters)) kept := by
  -- The rows of the key are ranked among themselves, from one on.
  let sorted := (relation.restrict ranking.conditions parameters).mergeSort
    (relation.rankedBefore (readBack ranking.key) ranking.terms)
  refine ⟨(relation.ofKey (readBack ranking.key) value sorted).take ranking.cap.toNat, ?_,
    Relation.keepsFirst_take _ ((List.mergeSort_perm _ _).filter _)
      (relation.pairwise_ofKey_mergeSort _ _ _ _)⟩
  have keys : ∀ ranked ∈ relation.ranks ranking parameters,
      ((relation.ranked ranking parameters).cell (readBack ranking.key) (rankedRow ranked)).same
        value = (relation.cell (readBack ranking.key) ranked.1).same value := fun ranked member =>
    congrArg (Cell.same · value) (Relation.cell_ranked ranking parameters keyed
      (relation.mem_of_mem_ranks ranking parameters ranked member) ranked.2)
  have numbered : (relation.ranks ranking parameters).filter
      (fun ranked => (relation.cell (readBack ranking.key) ranked.1).same value) =
        (relation.ofKey (readBack ranking.key) value sorted).zipIdx 1 := filter_withRanks [] sorted
  -- Choosing a key and choosing small ranks can be done in either order.
  calc (relation.ranked ranking parameters).ofKey (readBack ranking.key) value
        (relation.ranked ranking parameters).rows
    _ = (((relation.ranks ranking parameters).filter fun ranked =>
          (relation.cell (readBack ranking.key) ranked.1).same value).filter fun ranked =>
            decide ((ranked.2 : Int) ≤ ranking.cap)).map rankedRow := by
      rw [Relation.rows_ranked unranked, Relation.ofKey, List.filter_map,
        List.filter_filter, List.filter_filter]
      refine congrArg _ (List.filter_congr fun ranked member => ?_)
      rw [Function.comp_apply, keys ranked member, Bool.and_comm]
    _ = numberedRows ((relation.ofKey (readBack ranking.key) value sorted).take
          ranking.cap.toNat) := by
      have first : (ranking.cap + 1 - (1 : Nat)).toNat = ranking.cap.toNat := by omega
      rw [numbered, filter_zipIdx_le, first, numberedRows]

end Joinery
