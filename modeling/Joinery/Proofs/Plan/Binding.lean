import Joinery.Proofs.Filter.Reading
import Joinery.Proofs.Filter.Shape
import Joinery.Proofs.Plan.Parts

/-! Every condition that needs a value binds exactly one, of the meaning of its field and at a place of its own. -/

namespace Joinery

/-- Whether a condition binds a value: all do but those that ask for a missing value or a present one. -/
def Condition.binds (condition : Condition) : Bool :=
  match condition.comparator, condition.operand with
  | .equal, .scalar .null => false
  | .notEqual, .scalar .null => false
  | _, _ => true

/-- Whether a bound value is one of a meaning, or null. -/
def BoundValue.isOf : SemanticType → BoundValue → Bool
  | _, .null => true
  | .string, .text _ => true
  | .integer, .integer _ => true
  | .decimal, .decimal _ => true
  | .boolean, .boolean _ => true
  | .datetime, .moment _ => true
  | _, _ => false

/-- The values of a binding. -/
def Binding.values : Binding → List BoundValue
  | .one value => [value]
  | .many values => values

/-- What is bound for a condition on a field of an entity. -/
structure Parameter.Carries (bound : EntitySchema × Condition) (parameter : Parameter) : Prop where
  /-- Its meaning is that of the field. -/
  type : parameter.type = bound.1.fieldType bound.2.field
  /-- It is several values where the comparator takes several. -/
  several : parameter.binding.isMany = bound.2.comparator.takesArray
  /-- All its values are of the meaning, or null. -/
  values : ∀ value ∈ parameter.binding.values, value.isOf (bound.1.fieldType bound.2.field) = true

/-- The comparisons of conditions that bind, with places from the given one on. -/
def comparisonsFrom (place : Nat) (bound : List (EntitySchema × Condition)) : List Predicate :=
  (bound.zipIdx place).map fun (pair, place) => .compare pair.2.field pair.2.comparator place

/-- Comparisons take their places one after the other. -/
theorem comparisonsFrom_append (place : Nat) (first second : List (EntitySchema × Condition)) :
    comparisonsFrom place (first ++ second) =
      comparisonsFrom place first ++ comparisonsFrom (place + first.length) second := by
  -- The second comparisons are counted on from the first.
  rw [comparisonsFrom, List.zipIdx_append, List.map_append]
  rfl

/-- The predicates that read a place. -/
def comparisons (predicates : List Predicate) : List Predicate :=
  predicates.filter (·.placeholder?.isSome)

/-- A value that is converted to a meaning is of that meaning. -/
theorem convert_isOf {levels : Nat} {value : Value} {type : SemanticType} {bound : BoundValue}
    (converted : value.convert levels type = .ok bound) : bound.isOf type = true := by
  -- Every meaning wraps what its conversion gives in the kind of its own.
  cases type <;> obtain ⟨_, _, rfl⟩ := map_eq_ok.mp converted <;> rfl

/-- What a value of a field is bound as is of the meaning of the field, or null. -/
theorem bindValue_isOf {levels : Nat} {field : String} {type : SemanticType} {value : Value}
    {bound : BoundValue} (converted : bindValue levels field type value = .ok bound) :
    bound.isOf type = true := by
  -- Null belongs to every meaning, and everything else is converted to the one of the field.
  rw [bindValue] at converted
  split at converted
  · cases converted
    cases type <;> rfl
  · split at converted
    · rename_i found
      cases converted
      exact convert_isOf found
    · contradiction

variable {entity : EntitySchema}

/-- The operand of a condition is bound as values of the meaning of its field. -/
theorem bindOperand_carries {condition : Condition} {binding : Binding}
    (arrays : condition.operand.isArray = condition.comparator.takesArray)
    (bound : bindOperand entity condition = .ok binding) :
    Parameter.Carries (entity, condition) ⟨binding, entity.fieldType condition.field⟩ := by
  -- A scalar is bound alone and an array item by item.
  obtain ⟨field, comparator, operand⟩ := condition
  cases operand with
  | scalar value =>
    obtain ⟨converted, single, rfl⟩ := map_eq_ok.mp bound
    refine ⟨rfl, arrays, fun value member => ?_⟩
    rw [List.mem_singleton.mp member]
    exact bindValue_isOf single
  | array scalars =>
    obtain ⟨converted, each, rfl⟩ := map_eq_ok.mp bound
    refine ⟨rfl, arrays, fun value member => ?_⟩
    obtain ⟨scalar, _, single⟩ := exists_left_of_aligned (mapM_eq_ok.mp each) member
    exact bindValue_isOf single

/-- An operand is bound as null exactly when it is null. -/
theorem bindOperand_eq_null {condition : Condition} {binding : Binding}
    (bound : bindOperand entity condition = .ok binding) :
    binding = .one .null ↔ condition.operand = .scalar .null := by
  -- Binding keeps null, and an array is bound as an array whatever is in it.
  obtain ⟨field, comparator, operand⟩ := condition
  cases operand with
  | scalar value =>
    obtain ⟨converted, single, rfl⟩ := map_eq_ok.mp bound
    rw [Binding.one.injEq, bindValue_eq_null single]
    cases value <;> simp [Scalar.toValue, Value.isNull]
  | array scalars =>
    obtain ⟨converted, _, rfl⟩ := map_eq_ok.mp bound
    exact iff_of_false nofun nofun

/-- A condition that compares with something else than null binds. -/
theorem Condition.binds_of_ne_null {condition : Condition}
    (given : condition.operand ≠ .scalar .null) : condition.binds = true := by
  -- Only the two tests for null do not bind, and their operand is null.
  unfold binds
  split
  · contradiction
  · contradiction
  · rfl

/-- A condition that binds becomes a comparison with what it binds, any other one a test for null. -/
theorem placeCondition_ok {place : Nat} {condition : Condition} {predicate : Predicate}
    {bound : List Parameter}
    (arrays : condition.operand.isArray = condition.comparator.takesArray)
    (placed : placeCondition entity place condition = .ok (predicate, bound)) :
    (condition.binds = true ∧ predicate = .compare condition.field condition.comparator place ∧
      ∃ parameter, bound = [parameter] ∧ Parameter.Carries (entity, condition) parameter) ∨
    (condition.binds = false ∧ predicate.placeholder? = none ∧ bound = []) := by
  obtain ⟨binding, operand, rest⟩ := bind_eq_ok.mp placed
  have carried := bindOperand_carries arrays operand
  by_cases null : condition.operand = .scalar .null
  · -- With null the comparator decides.
    have missing := (bindOperand_eq_null operand).mpr null
    obtain ⟨field, comparator, value⟩ := condition
    subst missing null
    cases comparator with
    | equal | notEqual =>
      cases rest
      exact .inr ⟨rfl, rfl, rfl⟩
    | _ =>
      cases rest
      exact .inl ⟨rfl, rfl, _, rfl, carried⟩
  · have given : binding ≠ .one .null := mt (bindOperand_eq_null operand).mp null
    rw [placeCondition_of_ne_null operand given] at placed
    cases placed
    exact .inl ⟨Condition.binds_of_ne_null null, rfl, _, rfl, carried⟩

/-- The conditions of an entity, each one with it. -/
def EntitySchema.pairs (entity : EntitySchema) (conditions : List Condition) :
    List (EntitySchema × Condition) :=
  conditions.map (entity, ·)

/-- The pairs whose condition binds a value. -/
def binding (pairs : List (EntitySchema × Condition)) : List (EntitySchema × Condition) :=
  pairs.filter (·.2.binds)

/--
What some planning puts into a statement for conditions, with places from the given one on.

Their comparisons take one place after the other, and one value is carried for each of them.
-/
structure Places (place : Nat) (bound : List (EntitySchema × Condition))
    (predicates : List Predicate) (parameters : List Parameter) : Prop where
  /-- The predicates that read a place are the comparisons. -/
  compared : comparisons predicates = comparisonsFrom place bound
  /-- Every comparison has its parameter. -/
  carried : List.Forall₂ Parameter.Carries bound parameters

/-- What is put in for some conditions and then for others is put in for all of them. -/
theorem Places.append {place : Nat} {first second : List (EntitySchema × Condition)}
    {predicates others : List Predicate} {parameters more : List Parameter}
    (front : Places place first predicates parameters)
    (back : Places (place + parameters.length) second others more) :
    Places place (first ++ second) (predicates ++ others) (parameters ++ more) := by
  -- The places of the second conditions begin where those of the first end.
  refine ⟨?_, List.rel_append front.carried back.carried⟩
  rw [comparisonsFrom_append, front.carried.length_eq, ← front.compared, ← back.compared]
  exact List.filter_append ..

/-- Placed conditions bind one after the other. -/
theorem placeConditions_places {place : Nat} {conditions : List Condition}
    {predicates : List Predicate} {parameters : List Parameter}
    (arrays : ∀ condition ∈ conditions, condition.operand.isArray = condition.comparator.takesArray)
    (placed : placeConditions entity place conditions = .ok (predicates, parameters)) :
    Places place (binding (entity.pairs conditions)) predicates parameters := by
  -- Condition by condition: one that binds takes the next place, a test for null takes none.
  induction conditions generalizing place predicates parameters with
  | nil =>
    cases placed
    exact ⟨rfl, .nil⟩
  | cons condition rest ih =>
    obtain ⟨⟨predicate, own⟩, first, placed⟩ := bind_eq_ok.mp placed
    obtain ⟨⟨others, more⟩, later, placed⟩ := bind_eq_ok.mp placed
    cases placed
    have back := ih (fun other member => arrays other (List.mem_cons_of_mem _ member)) later
    rcases placeCondition_ok (arrays condition (by simp)) first with
      ⟨binds, rfl, parameter, rfl, carried⟩ | ⟨silent, none, rfl⟩
    · have front : Places place [(entity, condition)]
          [.compare condition.field condition.comparator place] [parameter] :=
        ⟨rfl, .cons carried .nil⟩
      have all := front.append back
      rwa [show binding (entity.pairs (condition :: rest)) =
        [(entity, condition)] ++ binding (entity.pairs rest) from List.filter_cons_of_pos binds]
    -- A test for null is not among the binding conditions, and its predicate compares nothing.
    · have pairs : binding (entity.pairs (condition :: rest)) = binding (entity.pairs rest) :=
        List.filter_cons_of_neg (by simp [silent])
      have read : comparisons (predicate :: others) = comparisons others :=
        List.filter_cons_of_neg (by simp [none])
      rw [pairs]
      exact ⟨read.trans back.compared, back.carried⟩

/-- What a filter says about an entity, condition by condition; nothing when it cannot be read. -/
def EntitySchema.conditions (entity : EntitySchema) (filter : Option Filter) : List Condition :=
  match Filter.read entity filter with
  | .error _ => []
  | .ok reading => reading.conditions

/-- The conditions of a planned filter bind one after the other. -/
theorem planFilter_places {place : Nat} {filter : Option Filter} {planned : PlannedFilter}
    (built : planFilter entity place filter = .ok planned) :
    Places place (binding (entity.pairs (entity.conditions filter))) planned.predicates
      planned.parameters := by
  -- The filter is read before its conditions are placed, and placing them counts the places.
  obtain ⟨reading, read, built⟩ := bind_eq_ok.mp built
  obtain ⟨⟨predicates, parameters⟩, placed, same⟩ := bind_eq_ok.mp built
  cases same
  have read := mapError_eq_ok.mp read
  rw [EntitySchema.conditions, read]
  exact placeConditions_places (fun condition member => (Filter.read_condition read condition member).2)
    (mapError_eq_ok.mp placed)

/-- The conditions of the joined entities, join by join. -/
def stepPairs (steps : List JoinStep) : List (EntitySchema × Condition) :=
  steps.flatMap fun step => step.entity.pairs (step.entity.conditions step.filter)

/-- The conditions of planned joins bind one after the other, join by join. -/
theorem planJoins_places {registry : Registry} {all steps : List JoinStep} {place : Nat}
    {planned : PlannedJoins} (built : planJoins registry all place steps = .ok planned) :
    Places place (binding (stepPairs steps)) (planned.joins.flatMap Join.predicates)
      planned.parameters := by
  -- Join by join: the places of the others begin behind those of the first.
  induction steps generalizing place planned with
  | nil =>
    cases built
    exact ⟨rfl, .nil⟩
  | cons step rest ih =>
    obtain ⟨filter, others, narrowed, _, later, rfl⟩ := planJoins_cons_ok built
    have all := (planFilter_places narrowed).append (ih later)
    rw [stepPairs, List.flatMap_cons, binding, List.filter_append, List.flatMap_cons,
      planJoin_predicates]
    exact all

/-- Comparisons read their places one after the other. -/
theorem comparisonsFrom_placeholders (place : Nat) (bound : List (EntitySchema × Condition)) :
    (comparisonsFrom place bound).filterMap Predicate.placeholder? =
      List.range' place bound.length := by
  -- Each condition reads the place at its own position.
  induction bound generalizing place with
  | nil => rfl
  | cons pair rest ih =>
    have cons : comparisonsFrom place (pair :: rest) =
        .compare pair.2.field pair.2.comparator place :: comparisonsFrom (place + 1) rest := rfl
    rw [cons, List.filterMap_cons, ih]
    rfl

/-- The places that predicates read are those that their comparisons read. -/
theorem filterMap_comparisons (predicates : List Predicate) :
    (comparisons predicates).filterMap Predicate.placeholder? =
      predicates.filterMap Predicate.placeholder? := by
  -- A test for null reads no place, so it does not matter that it is left out.
  induction predicates with
  | nil => rfl
  | cons predicate rest ih =>
    rw [comparisons, List.filter_cons]
    cases read : predicate.placeholder? <;> simp [read, ← ih, comparisons]

end Joinery
