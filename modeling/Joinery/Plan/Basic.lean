import Joinery.Plan.JoinOrder
import Joinery.Plan.Limits
import Joinery.Statement.Parameter

/-! Queries are planned as one statement and the values that are bound to it. -/

namespace Joinery

/-- A query with everything that is needed to execute it and to read its rows. -/
structure Plan where
  /-- The statement. -/
  statement : Statement
  /-- What is bound to the places of the statement, in order. -/
  parameters : List Parameter
  /-- The primary entity. -/
  primary : EntitySchema
  /-- The related entities in the order of their joins. -/
  related : List EntitySchema
  /-- The cap on joined rows. -/
  rowLimit : Value
  /-- What is worth telling. -/
  warnings : List PlanningWarning
  /-- The fields of filters that were left out, each behind its entity. -/
  rejectedFields : List String
  /-- The entities to keep in the result, in lower case; none keeps all. -/
  selectedEntities : List String
  /-- The fields to keep of some entities, in lower case. -/
  selectedFields : Entries (List String)
  deriving Repr

/-- The names of the related entities in the order of their joins. -/
def Plan.joined (plan : Plan) : List String :=
  plan.related.map (·.name)

/-- The columns of all fields of an entity that is the given source. -/
def selectedColumns (source : Nat) (entity : EntitySchema) : List SelectedColumn :=
  entity.fieldNames.map fun field => ⟨⟨source, field⟩, entity.columnLabel field⟩

/-- The meanings of the returned columns; of two columns with one label the last one counts. -/
def Plan.resultTypes (plan : Plan) : Entries SemanticType :=
  .ofPairs ((plan.primary :: plan.related).flatMap fun entity =>
    entity.fieldNames.map fun field => (entity.columnLabel field, entity.fieldType field))

/-- Converts the operand of a condition to the meaning of its field. -/
def bindOperand (entity : EntitySchema) (condition : Condition) : Except ConversionError Binding :=
  let type := entity.fieldType condition.field
  match condition.operand with
  -- Scalars are neither lists nor mappings, so that they take no level where they are shown.
  | .scalar value => (bindValue 0 condition.field type value.toValue).map .one
  | .array values =>
    (values.mapM fun value => bindValue 0 condition.field type value.toValue).map .many

/-- The predicate of a condition whose value takes the given place, and what is bound to it. -/
def placeCondition (entity : EntitySchema) (place : Nat) (condition : Condition) :
    Except ConversionError (Predicate × List Parameter) := do
  let binding ← bindOperand entity condition
  match binding, condition.comparator with
  | .one .null, .equal => return (.isNull condition.field, [])
  | .one .null, .notEqual => return (.isNotNull condition.field, [])
  | _, comparator =>
    return (.compare condition.field comparator place,
      [⟨binding, entity.fieldType condition.field⟩])

/-- The predicates of conditions whose values take places from the given one on. -/
def placeConditions (entity : EntitySchema) :
    Nat → List Condition → Except ConversionError (List Predicate × List Parameter)
  | _, [] => .ok ([], [])
  | place, condition :: rest => do
    let (predicate, bound) ← placeCondition entity place condition
    let (predicates, others) ← placeConditions entity (place + bound.length) rest
    return (predicate :: predicates, bound ++ others)

/-- What a filter adds to a statement. -/
structure PlannedFilter where
  /-- The predicates. -/
  predicates : List Predicate
  /-- What is bound to their places. -/
  parameters : List Parameter
  /-- The fields that were left out. -/
  rejected : List String

/-- Plans the filter of an entity, with places from the given one on. -/
def planFilter (entity : EntitySchema) (place : Nat) (filter : Option Filter) :
    Except PlanFault PlannedFilter := do
  let reading ← (Filter.read entity filter).mapError .rejected
  let (predicates, parameters) ← (placeConditions entity place reading.conditions).mapError .conversion
  return ⟨predicates, parameters, reading.rejected.map fun field => entity.name ++ "." ++ field⟩

/-- The number of the source that an entity is: the primary one is zero. -/
def sourceOf (steps : List JoinStep) (entity : EntitySchema) : Nat :=
  match steps.findIdx? (·.entity.key == entity.key) with
  | some position => position + 1
  | none => 0

/-- The join of a step, with the predicates of its filter inside its ranking or beside its keys. -/
def planJoin (registry : Registry) (steps : List JoinStep) (step : JoinStep)
    (predicates : List Predicate) : Join :=
  let keys := joinKeys step.parent step.entity
  let parent : ColumnRef := ⟨sourceOf steps step.parent, keys.parent⟩
  match registry.entityLimit step.filter with
  | none => ⟨step.entity.tableName, none, keys.child, parent, predicates⟩
  | some cap =>
    ⟨step.entity.tableName, some ⟨keys.child, step.entity.defaultOrderBy, predicates, cap⟩,
      keys.child, parent, []⟩

/-- What the joins add to a statement. -/
structure PlannedJoins where
  /-- The joins. -/
  joins : List Join
  /-- What is bound to their places. -/
  parameters : List Parameter
  /-- The fields that were left out. -/
  rejected : List String

/-- Plans joins one after the other, with places from the given one on; their caps are written. -/
def planJoins (registry : Registry) (steps : List JoinStep) :
    Nat → List JoinStep → Except PlanFault PlannedJoins
  | _, [] => .ok ⟨[], [], []⟩
  | place, step :: rest => do
    let filter ← planFilter step.entity place step.filter
    (registry.checkEntityLimit step.filter).mapError .misuse
    let others ← planJoins registry steps (place + filter.parameters.length) rest
    return ⟨planJoin registry steps step filter.predicates :: others.joins,
      filter.parameters ++ others.parameters, filter.rejected ++ others.rejected⟩

/-- The filter of a query, which has to say something about some field. -/
def Query.requiredFilter (query : Query) : Except PlanFault Filter :=
  match query.filter with
  | none => .error (.rejected .noFilter)
  | some filter => if filter.isEmpty then .error (.rejected .noFilter) else .ok filter

/-- The cap of a query, and the whole number of it, which is written. -/
def Query.plannedCap (registry : Registry) (query : Query) : Except Misuse (Value × Int) := do
  let limit ← registry.rowLimit query.maxRows
  let cap ← limit.toWhole
  checkWritable cap
  return (limit, cap)

/-- The columns of the primary entity and of the entities joined to it. -/
def plannedColumns (primary : EntitySchema) (steps : List JoinStep) : List SelectedColumn :=
  selectedColumns 0 primary ++
    (steps.mapIdx fun position step => selectedColumns (position + 1) step.entity).flatten

/-- The identifiers of the primary entity and of the entities joined to it. -/
def plannedOrder (primary : EntitySchema) (steps : List JoinStep) : List ColumnRef :=
  ⟨0, primary.identifierField⟩ ::
    steps.mapIdx fun position step => ⟨position + 1, step.entity.identifierField⟩

/-- Plans a query. -/
def Registry.plan (registry : Registry) (query : Query) : Except PlanFault Plan := do
  if !query.primary.truthy then .error (.rejected .noPrimary)
  else
    let filter ← query.requiredFilter
    let primary ← registry.require query.primary
    let order ← JoinOrder.ofRequests registry primary query.related
    let joins ← planJoins registry order.steps 0 order.steps
    let main ← planFilter primary joins.parameters.length (some filter)
    let (rowLimit, cap) ← (query.plannedCap registry).mapError .misuse
    return {
      statement := {
        columns := plannedColumns primary order.steps
        table := primary.tableName
        joins := joins.joins
        conditions := main.predicates
        order := plannedOrder primary order.steps
        cap := cap
      }
      parameters := joins.parameters ++ main.parameters
      primary := primary
      related := order.steps.map (·.entity)
      rowLimit := rowLimit
      warnings := order.warnings primary
      rejectedFields := joins.rejected ++ main.rejected
      selectedEntities := query.selectedEntities.map lowered
      selectedFields := .ofPairs (query.selectedFields.map fun (key, fields) =>
        (lowered key, fields.map lowered))
    }

end Joinery
