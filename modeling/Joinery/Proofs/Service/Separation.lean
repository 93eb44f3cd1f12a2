import Joinery.Proofs.Result.Separation
import Joinery.Proofs.Service.Belonging

/-! Which queries give every entity its own record back, and one that shows a value of another entity. -/

namespace Joinery

/--
Records are told apart by their labels exactly where no fields of the plan overlap.

Fields overlap when the longer key begins with the shorter one, and the separator can be read again.
-/
theorem Plan.records_told_apart_iff {registry : Registry} {query : Query} {plan : Plan}
    (planned : registry.plan query = .ok plan) :
    (plan.Separated ↔ ¬ plan.Overlapping) ∧ (plan.GivesBack ↔ ¬ plan.Overlapping) := by
  -- Records come back exactly when no two labels are alike, and labels are alike where fields overlap.
  have separated := Plan.separated_iff planned
  exact ⟨separated, plan.givesBack_iff.trans separated⟩

/-- In the plan of owners and their pets no fields overlap, and all records are given back. -/
theorem petPlan_records_told_apart : petRegistry.plan (petQuery none) = .ok petPlan ∧
    ¬ petPlan.Overlapping ∧ petPlan.Separated ∧ petPlan.GivesBack := by
  -- The labels of this plan are evaluated, and the theorem gives the rest.
  have planned : petRegistry.plan (petQuery none) = .ok petPlan := petPlan_planned
  obtain ⟨separated, back⟩ := Plan.records_told_apart_iff planned
  have apart : petPlan.Separated := by decide +kernel
  have clear : ¬ petPlan.Overlapping := separated.mp apart
  exact ⟨planned, clear, apart, back.mpr clear⟩

/-- The entity whose key goes on where the key of the primary one ends. -/
def clashEntity : EntitySchema := clashPlan.related.get ⟨1, by decide +kernel⟩

/--
Columns of two entities of a loaded registry can have one label.

A row with records of both gives the value of the later one to both, and so does the answer to a query:
the primary record shows a value that only stands in the table of the other entity.
-/
theorem Plan.records_not_told_apart :
    Registry.ofDocument clashDocument = .ok clashRegistry ∧
    clashRegistry.plan clashQuery = .ok clashPlan ∧
    (clashPlan.primary ≠ clashEntity ∧ clashPlan.primary ∈ clashPlan.entities ∧
      clashEntity ∈ clashPlan.entities ∧ "q__x" ∈ clashPlan.primary.fieldNames ∧
      "x" ∈ clashEntity.fieldNames ∧
      clashPlan.primary.columnLabel "q__x" = clashEntity.columnLabel "x") ∧
    ¬ clashPlan.Separated ∧ ¬ clashPlan.GivesBack ∧
    clashDatabase.table? "p" = some
      ⟨[⟨"id", .text⟩, ⟨"q__x", .text⟩], [[.text "1", .text "A"]], by decide⟩ ∧
    clashService.execute clashQuery .quiet = .ok clashResult ∧
    clashResult.data.get? "p" = some (.map [("id", .text "1"), ("q__x", .text "B")]) := by
  have planned : clashRegistry.plan clashQuery = .ok clashPlan := eq_ok_get _
  have inside : clashEntity ∈ clashPlan.entities :=
    List.mem_cons_of_mem _ (List.get_mem _ _)
  have first : "q__x" ∈ clashPlan.primary.fieldNames := by decide +kernel
  have second : "x" ∈ clashEntity.fieldNames := by decide +kernel
  -- Both labels are one text, since an underscore pair stands in the field as well as in the name.
  have overlap : clashPlan.primary.Overlaps "q__x" clashEntity "x" :=
    .repeated "q" (by decide +kernel) (by decide +kernel)
  have mixed : ¬ clashPlan.Separated := by
    rw [Plan.separated_iff planned, not_not]
    exact ⟨_, List.mem_cons_self, _, inside, _, first, _, second, overlap⟩
  -- The owner is given the value that belongs to the other entity.
  refine ⟨eq_ok_get _, planned, ⟨by decide +kernel, List.mem_cons_self, inside, first, second,
    overlap.columnLabel_eq⟩, mixed, fun back => mixed (clashPlan.givesBack_iff.mp back),
    by decide +kernel, ?_, by decide +kernel⟩
  rw [Service.execute_eq_answerInOrder planned (by decide +kernel)]
  decide +kernel

end Joinery
