import Joinery.Plan.Basic
import Joinery.Statement.Rendering

/-! Queries are planned for a dialect in one go: the text of the statement grows while values are bound. -/

namespace Joinery

/-- A query with the text of its statement in one dialect, and everything needed to read its rows. -/
structure WrittenPlan where
  /-- The text of the statement. -/
  text : String
  /-- What is bound to the places of the text, in order. -/
  parameters : List Parameter
  /-- The meanings of the returned columns. -/
  resultTypes : Entries SemanticType
  /-- The primary entity. -/
  primary : EntitySchema
  /-- The related entities in the order of their joins. -/
  related : List EntitySchema
  /-- The cap on joined rows. -/
  rowLimit : Value
  /-- What is worth telling. -/
  warnings : List PlanningWarning
  /-- The fields of filters that were left out, each behind its entity. -/
  rejectedFields : List String
  /-- The entities to keep in the result, in lower case; none keeps all. -/
  selectedEntities : List String
  /-- The fields to keep of some entities, in lower case. -/
  selectedFields : Entries (List String)
  deriving Repr

/-- A statement while it is written. -/
structure Draft where
  /-- The text so far. -/
  text : String
  /-- What is bound so far. -/
  parameters : List Parameter
  /-- The fields that were left out so far. -/
  rejected : List String

/-- The returned columns of an entity that is the given source. -/
def Dialect.draftColumns (dialect : Dialect) (source : Nat) (entity : EntitySchema) : List String :=
  entity.fieldNames.map fun field =>
    dialect.column (some source) field ++ " AS " ++ dialect.quoteAlways (entity.columnLabel field)

/-- The draft that returns the columns of all entities, from the primary table alone so far. -/
def Dialect.draftStart (dialect : Dialect) (primary : EntitySchema) (steps : List JoinStep) : Draft :=
  let columns := dialect.draftColumns 0 primary ++
    steps.flatMap fun step => dialect.draftColumns (sourceOf steps step.entity) step.entity
  ⟨"SELECT " ++ ", ".intercalate columns ++ " FROM " ++ dialect.quote primary.tableName ++ " t0",
    [], []⟩

/-- A condition on a column that is written already; what it compares with takes the next place. -/
def draftCondition (entity : EntitySchema) (column : String) (condition : Condition)
    (bound : List Parameter) : Except ConversionError (String × List Parameter) := do
  let binding ← bindOperand entity condition
  match binding, condition.comparator with
  | .one .null, .equal => return (column ++ " IS NULL", bound)
  | .one .null, .notEqual => return (column ++ " IS NOT NULL", bound)
  | _, comparator =>
    return (column ++ " " ++ comparator.spelling ++ " :" ++ placeholderName bound.length,
      bound ++ [⟨binding, entity.fieldType condition.field⟩])

/-- Conditions on an entity, one after the other. -/
def Dialect.draftConditions (dialect : Dialect) (entity : EntitySchema) (source : Option Nat) :
    List Condition → List Parameter → Except ConversionError (List String × List Parameter)
  | [], bound => .ok ([], bound)
  | condition :: rest, bound => do
    let column := dialect.column source condition.field
    let (text, bound) ← draftCondition entity column condition bound
    let (texts, bound) ← dialect.draftConditions entity source rest bound
    return (text :: texts, bound)

/-- The conditions of a filter, and the draft that tells which fields were left out. -/
def Draft.readFilter (draft : Draft) (entity : EntitySchema) (filter : Option Filter) :
    Except PlanFault (List Condition × Draft) := do
  let reading ← (Filter.read entity filter).mapError .rejected
  let rejected := reading.rejected.map fun field => entity.name ++ "." ++ field
  return (reading.conditions, { draft with rejected := draft.rejected ++ rejected })

/-- Adds the join of a step, with its conditions inside a ranking or beside the keys. -/
def Dialect.draftJoin (dialect : Dialect) (registry : Registry) (steps : List JoinStep)
    (draft : Draft) (step : JoinStep) : Except PlanFault Draft := do
  let entity := step.entity
  let source := sourceOf steps entity
  let keys := joinKeys step.parent entity
  let onKeys := dialect.column (some source) keys.child ++ " = " ++
    dialect.column (some (sourceOf steps step.parent)) keys.parent
  let (conditions, draft) ← draft.readFilter entity step.filter
  match registry.entityLimit step.filter with
  | some cap =>
    let (texts, bound) ←
      (dialect.draftConditions entity none conditions draft.parameters).mapError .conversion
    let ranked := dialect.ranked entity.tableName keys.child entity.defaultOrderBy
      (" AND ".intercalate texts)
    (checkWritable cap).mapError .misuse
    let first := "(SELECT * FROM (" ++ ranked ++ ") ranked WHERE _rn <= " ++ intText cap ++ ")"
    return { draft with
      text := draft.text ++ (" LEFT JOIN " ++ first ++ " " ++ sourceAlias source ++ " ON " ++ onKeys)
      parameters := bound }
  | none =>
    let (texts, bound) ←
      (dialect.draftConditions entity (some source) conditions draft.parameters).mapError .conversion
    return { draft with
      text := draft.text ++ (" LEFT JOIN " ++ dialect.quote entity.tableName ++ " " ++
        sourceAlias source ++ " ON " ++ onKeys ++ String.join (texts.map fun text => " AND " ++ text))
      parameters := bound }

/-- Adds the conditions on the primary entity. -/
def Dialect.draftWhere (dialect : Dialect) (primary : EntitySchema) (filter : Filter)
    (draft : Draft) : Except PlanFault Draft := do
  let (conditions, draft) ← draft.readFilter primary (some filter)
  if conditions.isEmpty then return draft
  else
    let (texts, bound) ←
      (dialect.draftConditions primary (some 0) conditions draft.parameters).mapError .conversion
    return { draft with
      text := draft.text ++ (" WHERE " ++ " AND ".intercalate texts)
      parameters := bound }

/-- The identifiers of all entities, by which the rows are sorted. -/
def Dialect.draftOrder (dialect : Dialect) (primary : EntitySchema) (steps : List JoinStep) : String :=
  ", ".intercalate <| dialect.column (some 0) primary.identifierField :: steps.map fun step =>
    dialect.column (some (sourceOf steps step.entity)) step.entity.identifierField

/-- Puts a cap behind a sorted statement; it has to be a whole number that can be written. -/
def Dialect.capRows? (dialect : Dialect) (text : String) (limit : Value) : Except Misuse String := do
  let cap ← limit.toWhole
  checkWritable cap
  return dialect.capRows text cap

/-- Plans a query for a dialect. -/
def Registry.planIn (registry : Registry) (dialect : Dialect) (query : Query) :
    Except PlanFault WrittenPlan := do
  if !query.primary.truthy then .error (.rejected .noPrimary)
  else
    let filter ← query.requiredFilter
    let primary ← registry.require query.primary
    let order ← JoinOrder.ofRequests registry primary query.related
    let steps := order.steps
    let joined ← steps.foldlM (dialect.draftJoin registry steps) (dialect.draftStart primary steps)
    let narrowed ← dialect.draftWhere primary filter joined
    let sorted := narrowed.text ++ (" ORDER BY " ++ dialect.draftOrder primary steps)
    let limit ← (registry.rowLimit query.maxRows).mapError .misuse
    let text ← (dialect.capRows? sorted limit).mapError .misuse
    return {
      text := text
      parameters := narrowed.parameters
      resultTypes := .ofPairs ((primary :: steps.map (·.entity)).flatMap fun entity =>
        entity.fieldNames.map fun field => (entity.columnLabel field, entity.fieldType field))
      primary := primary
      related := steps.map (·.entity)
      rowLimit := limit
      warnings := order.warnings primary
      rejectedFields := narrowed.rejected
      selectedEntities := query.selectedEntities.map lowered
      selectedFields := .ofPairs (query.selectedFields.map fun (key, fields) =>
        (lowered key, fields.map lowered))
    }

end Joinery
