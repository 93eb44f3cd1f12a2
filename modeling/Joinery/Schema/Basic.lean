import Joinery.Schema.SemanticType
import Joinery.Value.Entries

/-! Entities, their fields and their relationships, and the registry that holds them. -/

namespace Joinery

/-- A field of an entity. -/
structure FieldDefinition where
  /-- What the values mean. -/
  type : SemanticType
  /-- What the field is for. -/
  description : String
  deriving DecidableEq, Repr

/-- How many records of either side belong together; it is documentation only. -/
inductive Cardinality where
  /-- One record here, many there. -/
  | oneToMany
  /-- Many records here, one there. -/
  | manyToOne
  /-- One record on either side. -/
  | oneToOne
  deriving DecidableEq, Repr

/-- The name of a cardinality. -/
def Cardinality.name : Cardinality → String
  | .oneToMany => "one-to-many"
  | .manyToOne => "many-to-one"
  | .oneToOne => "one-to-one"

/-- A relationship of an entity to another one. -/
structure Relationship where
  /-- The field on this side. -/
  foreignKey : String
  /-- The field on the other side, the one of the same name when none is given. -/
  localKey : Option String
  /-- How many records belong together. -/
  cardinality : Cardinality
  deriving DecidableEq, Repr

/-- An entity: a table, its typed fields, and what queries may do with them. -/
structure EntitySchema where
  /-- The name of the entity. -/
  name : String
  /-- The table that holds its records. -/
  tableName : String
  /-- What the entity is. -/
  description : String
  /-- The field that tells its records apart. -/
  identifierField : String
  /-- Its fields in order. -/
  fields : Entries FieldDefinition
  /-- The fields that filters may use. -/
  allowedFilterFields : List String
  /-- The terms by which its records are ranked. -/
  defaultOrderBy : Option String
  /-- Its relationships by the name of the other entity. -/
  relationships : Entries Relationship
  deriving DecidableEq, Repr

/-- The name in lower case, under which the entity stands in results. -/
def EntitySchema.key (entity : EntitySchema) : String :=
  lowered entity.name

/-- The names of the fields. -/
def EntitySchema.fieldNames (entity : EntitySchema) : List String :=
  entity.fields.keys

/-- Whether the entity has a field of exactly this name. -/
def EntitySchema.declares (entity : EntitySchema) (field : String) : Bool :=
  entity.fields.has field

/-- What the values of a field mean; an unknown field holds texts. -/
def EntitySchema.fieldType (entity : EntitySchema) (field : String) : SemanticType :=
  ((entity.fields.get? field).map FieldDefinition.type).getD .string

/-- The first field open to filters that has the requested name, letter case aside. -/
def EntitySchema.allowedFilterField? (entity : EntitySchema) (requested : String) : Option String :=
  entity.allowedFilterFields.find? (sameName · requested)

/-- The first relationship towards an entity of the given name, letter case aside. -/
def EntitySchema.relationshipTo? (entity : EntitySchema) (other : String) : Option Relationship :=
  (entity.relationships.find? fun (name, _) => sameName name other).map Prod.snd

/-- What stands between an entity and a field in the name of a result column. -/
def columnSeparator : String := "__"

/-- The name of the result column that holds a field of an entity. -/
def EntitySchema.columnLabel (entity : EntitySchema) (field : String) : String :=
  entity.key ++ columnSeparator ++ field

/-- The entities that queries may use, and the caps on their results. -/
structure Registry where
  /-- The entities by their names in lower case. -/
  entities : Entries EntitySchema
  /-- The cap of a query that asks for none. -/
  defaultLimit : Int
  /-- The largest cap that a query may ask for. -/
  maxLimit : Int
  deriving DecidableEq, Repr

/-- The names of the entities. -/
def Registry.names (registry : Registry) : List String :=
  registry.entities.map fun (_, entity) => entity.name

/-- The entity of a name, letter case aside; no entity has the empty name. -/
def Registry.lookup? (registry : Registry) (name : String) : Option EntitySchema :=
  if name = "" then none else registry.entities.get? (lowered name)

/-- The field of the parent and the field of the child that join two entities. -/
structure JoinKeys where
  /-- The field of the parent. -/
  parent : String
  /-- The field of the child. -/
  child : String
  deriving DecidableEq, Repr

/-- The other side's field of a relationship: an empty one counts as none given. -/
def Relationship.otherKey (relationship : Relationship) : String :=
  match relationship.localKey with
  | none => relationship.foreignKey
  | some key => if key = "" then relationship.foreignKey else key

/--
The fields that join a child to its parent.

A relationship that the parent declares comes first, then one that the child declares.
Without either of them the identifiers are joined.
-/
def joinKeys (parent child : EntitySchema) : JoinKeys :=
  match parent.relationshipTo? child.name with
  | some relationship => ⟨relationship.foreignKey, relationship.otherKey⟩
  | none =>
    match child.relationshipTo? parent.name with
    | some relationship => ⟨parent.identifierField, relationship.foreignKey⟩
    | none => ⟨parent.identifierField, child.identifierField⟩

end Joinery
