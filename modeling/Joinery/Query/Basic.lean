import Joinery.Filter.Condition

/-! Queries of a primary entity and of the entities that are joined to it. -/

namespace Joinery

/-- A related entity that a query asks for. -/
structure RelatedRequest where
  /-- The name of the entity, as the caller gave it. -/
  entity : Value
  /-- Which records of it are wanted. -/
  filter : Option Filter
  /-- The name of the entity that it is joined to, null for the primary one. -/
  parent : Value
  deriving Repr

/-- A query; every step makes a new one and leaves the old one as it is. -/
structure Query where
  /-- The name of the primary entity, null until it is set. -/
  primary : Value
  /-- Which records of the primary entity are wanted. -/
  filter : Option Filter
  /-- The related entities in the order in which they were requested. -/
  related : List RelatedRequest
  /-- The entities to keep in the result; none keeps all. -/
  selectedEntities : List String
  /-- The fields to keep of some entities, by the name of the entity in lower case. -/
  selectedFields : Entries (List String)
  /-- The cap on joined rows, as the caller gave it. -/
  maxRows : Value
  deriving Repr

/-- The query that asks for nothing yet. -/
def Query.empty : Query where
  primary := .null
  filter := none
  related := []
  selectedEntities := []
  selectedFields := []
  maxRows := .null

/-- The query with the given primary entity. -/
def Query.fromEntity (query : Query) (entity : Value) : Query :=
  { query with primary := entity }

/-- The query with the given filter on its primary entity. -/
def Query.whereFilter (query : Query) (document : Value) : Except Rejection Query := do
  let filter ← Filter.ofValue document
  return { query with filter := filter }

/-- The query with one more related entity. -/
def Query.withRelated (query : Query) (entity document parent : Value) : Except Rejection Query := do
  let filter ← Filter.ofValue document
  return { query with related := query.related ++ [⟨entity, filter, parent⟩] }

/-- The query that keeps exactly these entities in its result. -/
def Query.select (query : Query) (entities : List String) : Query :=
  { query with selectedEntities := entities }

/-- The fields kept so far and those of the new ones that are not among them. -/
def addedFields (kept fields : List String) : List String :=
  kept ++ fields.filter (!kept.contains ·)

/-- The query that keeps these fields of an entity besides those it keeps already. -/
def Query.selectFields (query : Query) (entity : String) (fields : List String) : Query :=
  let key := lowered entity
  let kept := (query.selectedFields.get? key).getD []
  { query with selectedFields := query.selectedFields.insert key (addedFields kept fields) }

/-- The query with the given cap on joined rows. -/
def Query.limit (query : Query) (maxRows : Value) : Query :=
  { query with maxRows := maxRows }

/-- A step that makes a query from another one. -/
inductive QueryStep where
  /-- Sets the primary entity. -/
  | fromEntity (entity : Value)
  /-- Sets the filter on the primary entity. -/
  | whereFilter (document : Value)
  /-- Joins a related entity. -/
  | withRelated (entity document parent : Value)
  /-- Keeps entities. -/
  | select (entities : List String)
  /-- Keeps fields of an entity. -/
  | selectFields (entity : String) (fields : List String)
  /-- Caps the joined rows. -/
  | limit (maxRows : Value)
  deriving Repr

/-- Applies a step. -/
def Query.apply (query : Query) : QueryStep → Except Rejection Query
  | .fromEntity entity => .ok (query.fromEntity entity)
  | .whereFilter document => query.whereFilter document
  | .withRelated entity document parent => query.withRelated entity document parent
  | .select entities => .ok (query.select entities)
  | .selectFields entity fields => .ok (query.selectFields entity fields)
  | .limit maxRows => .ok (query.limit maxRows)

/-- Applies steps one after the other. -/
def Query.applyAll (query : Query) : List QueryStep → Except Rejection Query
  | [] => .ok query
  | step :: rest => do (← query.apply step).applyAll rest

end Joinery
