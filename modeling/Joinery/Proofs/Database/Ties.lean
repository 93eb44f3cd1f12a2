import Joinery.Database.Engine
import Joinery.Proofs.Database.Reordering
import Joinery.Proofs.Database.Sorting
import Mathlib.Data.List.Pairwise
import Mathlib.Tactic.ByContra

/-! A statement that leaves no order of rows open is carried out alike by every engine. -/

namespace Joinery

open Std (OrientedCmp TransCmp)

/-- Items of which no two stand in one place are sorted in one way, however they came. -/
theorem mergeSort_eq_of_perm {α β : Type} (cmp : β → β → Ordering) [TransCmp cmp] (key : α → β)
    {items others : List α} (permuted : others.Perm items)
    (untied : items.Pairwise fun a b => cmp (key a) (key b) ≠ .eq) :
    (others.mergeSort fun a b => cmp (key a) (key b) != .gt) =
      items.mergeSort fun a b => cmp (key a) (key b) != .gt := by
  have symm : Std.Symm fun a b => cmp (key a) (key b) ≠ .eq :=
    ⟨fun a b unequal equal => unequal (OrientedCmp.eq_symm equal)⟩
  have inside := List.mergeSort_perm items fun a b => cmp (key a) (key b) != .gt
  have both := ((List.mergeSort_perm others fun a b => cmp (key a) (key b) != .gt).trans
    permuted).trans inside.symm
  refine List.Perm.eq_of_pairwise (fun a b memberA memberB first second => ?_)
    (pairwise_mergeSort_of_cmp cmp key others) (pairwise_mergeSort_of_cmp cmp key items) both
  -- Two items that may stand before each other stand in one place, so they are one item.
  by_contra different
  exact untied.forall (inside.mem_iff.mp (both.mem_iff.mp memberA)) (inside.mem_iff.mp memberB)
    different (eq_of_ne_gt first second)

/-- No two rows that a ranking counts together stand in one place of its order. -/
def Relation.Untied (relation : Relation) (ranking : Ranking) (parameters : List Parameter) : Prop :=
  (relation.restrict ranking.conditions parameters).Pairwise fun a b =>
    relation.together (readBack ranking.key) a b = true →
      compareTerms relation ranking.terms a b ≠ .eq

instance (relation : Relation) (ranking : Ranking) (parameters : List Parameter) :
    Decidable (relation.Untied ranking parameters) :=
  inferInstanceAs (Decidable (List.Pairwise _ _))

/-- A statement leaves no order of rows open on a database. -/
structure Statement.Untied (statement : Statement) (database : Database)
    (parameters : List Parameter) : Prop where
  /-- Every ranking says which of its rows comes first. -/
  ranked : ∀ join ∈ statement.joins, ∀ ranking ∈ join.ranking,
    (database.tableOrEmpty join.table).Untied ranking parameters
  /-- No two joined rows agree in everything that they are sorted by. -/
  joined : (statement.joinedRows database parameters).Pairwise fun a b =>
    orderCells (statement.sortKey (statement.sources database parameters) a)
      (statement.sortKey (statement.sources database parameters) b) ≠ .eq

instance (statement : Statement) (database : Database) (parameters : List Parameter) :
    Decidable (statement.Untied database parameters) :=
  decidable_of_iff (_ ∧ _) ⟨fun ⟨ranked, joined⟩ => ⟨ranked, joined⟩,
    fun ⟨ranked, joined⟩ => ⟨ranked, joined⟩⟩

variable {relation other : Relation} {ranking : Ranking} {statement : Statement} {database : Database}
  {parameters : List Parameter}

/-- Without ties a ranking gives the same ranks to the rows of a table in any order. -/
theorem Relation.Reordered.ranks (reordered : relation.Reordered other)
    (untied : relation.Untied ranking parameters) :
    other.ranks ranking parameters = relation.ranks ranking parameters := by
  -- A ranking goes by its key like by a first term.
  let terms : List OrderTerm := ⟨readBack ranking.key, false⟩ :: ranking.terms
  have apart : (relation.restrict ranking.conditions parameters).Pairwise
      fun a b => compareTerms relation terms a b ≠ .eq := by
    refine untied.imp fun {a b} different same => ?_
    obtain ⟨together, tied⟩ := Ordering.then_eq_eq.mp same
    exact different (beq_iff_eq.mpr together) tied
  have sorted := mergeSort_eq_of_perm (compareTerms relation terms) id (reordered.rows.filter _)
    apart
  have cells := Relation.cell_congr reordered.columns
  have before : other.rankedBefore = relation.rankedBefore := by
    funext key terms a b
    simp only [rankedBefore, cells, compareTerms_congr reordered.columns]
  have together : other.together = relation.together := by
    funext key a b
    simp only [Relation.together, cells]
  simp only [Relation.ranks, restrict, before, together, satisfies_congr reordered.columns]
  exact congrArg (withRanks (relation.together (readBack ranking.key)) []) sorted

/-- So it keeps the same rows. -/
theorem Relation.Reordered.ranked (reordered : relation.Reordered other)
    (untied : relation.Untied ranking parameters) :
    other.ranked ranking parameters = relation.ranked ranking parameters := by
  -- The ranks are the same pairs, so the rows that keep a rank under the cap are.
  simp only [Relation.ranked, withRankColumn, keep, reordered.ranks untied, reordered.columns]

/-- An engine joins rows of the same sources as long as each join has the same ones to match. -/
theorem Engine.sources_eq {engine : Engine}
    (each : ∀ numbered ∈ statement.joins.zipIdx 1,
      engine.source database statement parameters numbered =
        numbered.1.source database parameters) :
    engine.sources database statement parameters = statement.sources database parameters := by
  refine congrArg (List.cons _) ((List.map_congr_left each).trans ?_)
  -- The numbers are left out again.
  conv_rhs => rw [← List.zipIdx_map_fst 1 statement.joins, List.map_map]
  rfl

/-- Without ties every engine joins rows of the same sources. -/
theorem Statement.Untied.sources (untied : statement.Untied database parameters)
    (engine : Engine) :
    engine.sources database statement parameters = statement.sources database parameters := by
  -- A join with a ranking reads its table in some order, and one without reads it as it is.
  refine Engine.sources_eq fun numbered member => ?_
  have inside : numbered.1 ∈ statement.joins := List.fst_mem_of_mem_zipIdx member
  simp only [Engine.source, Join.source]
  cases given : numbered.1.ranking with
  | none => rfl
  | some ranking =>
    exact (Relation.reordered_reorder (engine.scan_perm ..)).ranked (untied.ranked _ inside ranking given)

/-- Without ties every engine returns the same rows. -/
theorem Statement.Untied.resultRows (untied : statement.Untied database parameters)
    (engine : Engine) :
    engine.resultRows database statement parameters = statement.resultRows database parameters := by
  -- The engine gathers joined rows in some order, and sorting brings them into the only one there is.
  have permuted : (engine.joinedRows database statement parameters).Perm
      (statement.joinedRows database parameters) := by
    simp only [Engine.joinedRows, untied.sources engine]
    exact engine.gather_perm ..
  rw [Engine.resultRows, untied.sources engine]
  exact congrArg (capRows statement.cap)
    (mergeSort_eq_of_perm orderCells (statement.sortKey _) permuted untied.joined)

/-- Without ties every engine carries out a statement to the same rows, or to the same fault. -/
theorem Statement.Untied.run {plan : Plan}
    (untied : plan.statement.Untied database plan.parameters) (engine : Engine) :
    engine.run database plan = plan.run database := by
  -- The check reads the columns of the sources, and the answer is made of the rows.
  simp only [Engine.run, Plan.run, untied.sources engine, untied.resultRows engine]

end Joinery
