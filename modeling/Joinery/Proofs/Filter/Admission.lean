import Joinery.Database.Judgment
import Joinery.Proofs.Outcome
import Joinery.Plan.Basic

/-! Planned predicates hold of a row exactly when the filter that they were planned for admits it. -/

namespace Joinery

/-- Whether a condition holds of a row of the entity's table: the value compared with the operand. -/
def EntitySchema.holds (entity : EntitySchema) (relation : Relation) (row : Row)
    (condition : Condition) : Bool :=
  let name := readBack condition.field
  let cell := relation.cell name row
  match bindOperand entity condition with
  | .error _ => false
  | .ok binding =>
    -- No value is the same as no value here, although a comparison would leave it open.
    match binding, condition.comparator with
    | .one .null, .equal => cell.isNull
    | .one .null, .notEqual => !cell.isNull
    | _, comparator => (binding.judge comparator (relation.affinity name) cell).holds

/-- Whether all conditions that a filter sets on an entity hold of a row of its table. -/
def EntitySchema.admits (entity : EntitySchema) (filter : Option Filter) (relation : Relation)
    (row : Row) : Bool :=
  match Filter.read entity filter with
  | .error _ => false
  | .ok reading => reading.conditions.all (entity.holds relation row)

variable {entity : EntitySchema}

/-- A value is found at its place behind the values that were bound before it. -/
theorem getElem?_between (before after : List Parameter) (parameter : Parameter) :
    (before ++ parameter :: after)[before.length]? = some parameter := by
  -- The place is the number of the values before it.
  simp

/-- A placed condition holds of a row exactly when the condition does. -/
theorem placeCondition_judge {condition : Condition} {before bound : List Parameter}
    {predicate : Predicate} (after : List Parameter)
    (placed : placeCondition entity before.length condition = .ok (predicate, bound))
    (relation : Relation) (row : Row) :
    (predicate.judge (before ++ bound ++ after) relation row).holds =
      entity.holds relation row condition := by
  -- A missing value is tested without a place, every other one is read from its own place.
  obtain ⟨binding, converted, placed⟩ := bind_eq_ok.mp placed
  simp only [EntitySchema.holds, converted]
  generalize condition.comparator = comparator at placed ⊢
  split at placed
  · cases placed
    simp only [Predicate.judge, Predicate.column]
    cases relation.cell (readBack condition.field) row <;> rfl
  · cases placed
    simp only [Predicate.judge, Predicate.column]
    cases relation.cell (readBack condition.field) row <;> rfl
  · cases placed
    simp only [Predicate.judge, Predicate.column, List.append_assoc, List.singleton_append,
      getElem?_between, Option.bind_eq_bind, Option.bind_some]

/-- Placed conditions hold of a row exactly when all the conditions do. -/
theorem placeConditions_satisfies {conditions : List Condition} {bound : List Parameter}
    {predicates : List Predicate} (before after : List Parameter)
    (placed : placeConditions entity before.length conditions = .ok (predicates, bound))
    (relation : Relation) (row : Row) :
    satisfies predicates (before ++ bound ++ after) relation row =
      conditions.all (entity.holds relation row) := by
  -- What the first condition binds stands before what the others bind.
  induction conditions generalizing before after bound predicates with
  | nil =>
    cases placed
    rfl
  | cons condition rest ih =>
    obtain ⟨⟨predicate, own⟩, first, placed⟩ := bind_eq_ok.mp placed
    obtain ⟨⟨others, more⟩, later, placed⟩ := bind_eq_ok.mp placed
    cases placed
    have head := placeCondition_judge (more ++ after) first relation row
    have tail := ih (before ++ own) after (by simpa using later)
    simp only [List.append_assoc] at head tail
    simp only [satisfies, List.all_cons, List.append_assoc] at tail ⊢
    rw [head, tail]

/-- Planned predicates hold of a row exactly when their filter admits it. -/
theorem planFilter_satisfies {filter : Option Filter} {before : List Parameter}
    {planned : PlannedFilter} (after : List Parameter)
    (built : planFilter entity before.length filter = .ok planned)
    (relation : Relation) (row : Row) :
    satisfies planned.predicates (before ++ planned.parameters ++ after) relation row =
      entity.admits filter relation row := by
  -- The filter is read first, and its conditions are placed then.
  obtain ⟨reading, read, built⟩ := bind_eq_ok.mp built
  obtain ⟨⟨predicates, parameters⟩, placed, built⟩ := bind_eq_ok.mp built
  cases built
  simp only [EntitySchema.admits, mapError_eq_ok.mp read]
  exact placeConditions_satisfies before after (mapError_eq_ok.mp placed) relation row

end Joinery
