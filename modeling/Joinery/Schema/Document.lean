import Joinery.Schema.Basic
import Joinery.Schema.Naming
import Joinery.Validation.Checked

/-! Registries are read from schema documents, and checked while they are read. -/

namespace Joinery

/-- Why a document is no schema. -/
inductive SchemaFault where
  /-- A value is not even of the kind that could be read. -/
  | misuse (misuse : Misuse)
  /-- An entity has these issues. -/
  | invalid (issues : List Issue)
  /-- A cap is not positive. -/
  | limits
  /-- Two entities have the same name, letter case aside. -/
  | duplicate (name : String)
  /-- A relationship leads to an entity that does not exist. -/
  | unknownTarget (entity other : String)
  /-- A relationship uses a field that the other entity does not have. -/
  | unknownLocalKey (entity other key target : String)
  deriving Repr

/-- The wording of the causes that concern the registry as a whole. -/
def SchemaFault.message : SchemaFault → String
  | .limits => "defaultLimit and maxLimit must be positive"
  | .duplicate name => "Duplicate entity name (case-insensitive): " ++ name
  | .unknownTarget entity other =>
    entity ++ ": relationship references unknown entity '" ++ other ++ "'"
  | .unknownLocalKey entity other key target =>
    entity ++ ": relationship to " ++ other ++ " uses localKey '" ++ key ++ "' not declared on " ++
      target
  | .misuse (.notAllowed message) => message
  | _ => ""

/-- The meanings of fields as a sentence says them. -/
def typeChoices : String := "'string', 'integer', 'decimal', 'boolean' or 'datetime'"

/-- Reads the meaning of a field. -/
def Reader.semanticType : Reader SemanticType
  | .text s =>
    match SemanticType.ofText? s with
    | some type => .valid type
    | none => .fail (.choice typeChoices)
  | _ => .fail (.choice typeChoices)

/-- Reads a field. -/
def Reader.fieldDefinition : Reader FieldDefinition
  | .map entries =>
    ((Checked.valid FieldDefinition.mk).and
      (field entries "type" semanticType (some .string))).and
      (field entries "description" text (some ""))
  | _ => .fail (.record "FieldDefinition")

/-- Reads a cardinality. -/
def Reader.cardinality : Reader Cardinality
  | .text "one-to-many" => .valid .oneToMany
  | .text "many-to-one" => .valid .manyToOne
  | .text "one-to-one" => .valid .oneToOne
  | _ => .fail (.constant "'one-to-many', 'many-to-one' or 'one-to-one'")

/-- Reads a relationship. -/
def Reader.relationship : Reader Relationship
  | .map entries =>
    (((Checked.valid Relationship.mk).and
      (aliased entries "foreignKey" "foreign_key" text none)).and
      (aliased entries "localKey" "local_key" (optional text) (some none))).and
      (aliased entries "type" "cardinality" cardinality (some .oneToMany))
  | _ => .fail (.record "RelationshipDefinition")

/-- Reads the parts of an entity, each for itself. -/
def Reader.entityParts (name : String) (entries : Entries Value) : Checked EntitySchema :=
  (((((((Checked.valid (EntitySchema.mk name)).and
    (aliased entries "tableName" "table_name" text none)).and
    (field entries "description" text (some ""))).and
    (aliased entries "identifierField" "identifier_field" text none)).and
    (field entries "fields" (mapOf fieldDefinition) none)).and
    (aliased entries "allowedFilterFields" "allowed_filter_fields" (listOf text) (some []))).and
    (aliased entries "defaultOrderBy" "default_order_by" (optional text) (some none))).and
    (field entries "relationships" (mapOf relationship) (some []))

/-- Why the parts of an entity do not go together. -/
inductive EntityFault where
  /-- The table's name does not have the form of a name. -/
  | tableName (table : String)
  /-- A field's name does not have the form of a name. -/
  | fieldName (entity field : String)
  /-- The identifier is no field. -/
  | identifier (entity field : String)
  /-- Filters may use fields that do not exist. -/
  | filterFields (entity : String) (fields : List String)
  /-- A relationship starts from a field that does not exist. -/
  | foreignKey (entity other field : String)
  /-- A ranking term names no field or has another form. -/
  | orderTerm (entity term : String)
  deriving DecidableEq, Repr

/-- The complaint about the form of a name. -/
def malformedName (what name : String) : String :=
  "Invalid " ++ what ++ " '" ++ name ++ "': only letters, digits and underscores are allowed"

/-- The wording of each cause. -/
def EntityFault.message : EntityFault → String
  | .tableName table => malformedName "table name" table
  | .fieldName entity field => malformedName ("field name on " ++ entity) field
  | .identifier entity field =>
    entity ++ ": identifierField '" ++ field ++ "' is not a declared field"
  | .filterFields entity fields =>
    entity ++ ": allowedFilterFields not declared in fields: " ++ (Value.texts fields).shown
  | .foreignKey entity other field =>
    entity ++ ": relationship to " ++ other ++ " uses undeclared foreignKey '" ++ field ++ "'"
  | .orderTerm entity term =>
    entity ++ ": defaultOrderBy term '" ++ term ++
      "' must be a declared field with optional ASC/DESC"

/-- The ranking terms of an entity, as they are separated by commas. -/
def EntitySchema.orderTerms (entity : EntitySchema) : List (List Char) :=
  match entity.defaultOrderBy with
  | none => []
  | some order => if order = "" then [] else splitCommas order.toList

/-- Whether a ranking term names a field of the entity. -/
def EntitySchema.acceptsTerm (entity : EntitySchema) (term : List Char) : Bool :=
  (orderedField? term).any entity.declares

/-- The first thing that does not go together in an entity. -/
def EntitySchema.fault? (entity : EntitySchema) : Option EntityFault :=
  let unknown := entity.allowedFilterFields.filter fun field => !entity.declares field
  if !isName entity.tableName then some (.tableName entity.tableName)
  else if let some field := entity.fieldNames.find? fun field => !isName field then
    some (.fieldName entity.name field)
  else if !entity.declares entity.identifierField then
    some (.identifier entity.name entity.identifierField)
  else if !unknown.isEmpty then some (.filterFields entity.name unknown)
  else if let some (other, relationship) := entity.relationships.find? fun (_, relationship) =>
      !entity.declares relationship.foreignKey then
    some (.foreignKey entity.name other relationship.foreignKey)
  else if let some term := entity.orderTerms.find? fun term => !entity.acceptsTerm term then
    some (.orderTerm entity.name (String.ofList (trimChars term)))
  else none

/-- Reads an entity; its parts are held together only when each one is valid. -/
def Reader.entity (name : String) (entries : Entries Value) : Checked EntitySchema :=
  match entityParts name entries with
  | .invalid issues => .invalid issues
  | .valid entity =>
    match entity.fault? with
    | some fault => .fail (.rule fault.message)
    | none => .valid entity

/-- Reads one entity of a document. -/
def readEntity (name : String) : Value → Except SchemaFault EntitySchema
  | .map entries =>
    match Reader.entity name entries with
    | .valid entity => .ok entity
    | .invalid issues => .error (.invalid issues)
  | _ => .error (.misuse .wrongKind)

/-- Enters entities under their names in lower case, each name once. -/
def enterEntities : Entries EntitySchema → List (String × EntitySchema) →
    Except SchemaFault (Entries EntitySchema)
  | entered, [] => .ok entered
  | entered, (name, entity) :: rest =>
    if entered.has (lowered name) then .error (.duplicate name)
    else enterEntities (entered ++ [(lowered name, entity)]) rest

/-- The first fault of a relationship among the entities. -/
def relationshipFault? (entities : Entries EntitySchema) (entity : EntitySchema) :
    String × Relationship → Option SchemaFault
  | (other, relationship) =>
    match entities.get? (lowered other) with
    | none => some (.unknownTarget entity.name other)
    | some target =>
      match relationship.localKey with
      | none => none
      | some key =>
        if key = "" ∨ target.declares key then none
        else some (.unknownLocalKey entity.name other key target.name)

/-- The first fault of a relationship of any entity. -/
def targetFault? (entities : Entries EntitySchema) : Option SchemaFault :=
  entities.findSome? fun (_, entity) =>
    entity.relationships.findSome? (relationshipFault? entities entity)

/-- A registry of entities under the given names. -/
def Registry.ofEntities (named : List (String × EntitySchema)) (defaultLimit maxLimit : Int) :
    Except SchemaFault Registry := do
  if defaultLimit ≤ 0 ∨ maxLimit ≤ 0 then .error .limits
  else
    let entities ← enterEntities [] named
    match targetFault? entities with
    | some fault => .error fault
    | none => return ⟨entities, defaultLimit, maxLimit⟩

/-- The entities of a document, none when the value counts as nothing. -/
def documentEntities : Option Value → Except SchemaFault (Entries Value)
  | none => .ok []
  | some (.map entries) => .ok entries
  | some value => if value.truthy then .error (.misuse .noSuchMember) else .ok []

/-- A cap of a document, or the default when the document has none. -/
def documentLimit (entries : Entries Value) (key : String) (default : Int) :
    Except SchemaFault Int :=
  match entries.get? key with
  | none => .ok default
  | some value =>
    match value.toWhole with
    | .ok limit => .ok limit
    | .error misuse => .error (.misuse misuse)

/-- Reads a registry from a document. -/
def Registry.ofDocument : Value → Except SchemaFault Registry
  | .map document => do
    let entries ← documentEntities (Entries.get? document "entities")
    let named ← entries.mapM fun (name, value) => do
      let entity ← readEntity name value
      return (name, entity)
    let defaultLimit ← documentLimit document "defaultLimit" 100
    let maxLimit ← documentLimit document "maxLimit" 1000
    ofEntities named defaultLimit maxLimit
  | _ => .error (.misuse .noSuchMember)

end Joinery
