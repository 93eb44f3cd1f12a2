import Joinery.Plan.Basic
import Joinery.Result.Basic
import Joinery.Value.Identity

/-! Rows that carry the columns of all entities are taken apart into the records of each. -/

namespace Joinery

/-- A record of an entity: its fields in the order of the schema. -/
abbrev Record := Entries Value

/-- The fields of an entity in a row; a missing column counts as null. -/
def EntitySchema.extract (entity : EntitySchema) (row : Entries Value) : Record :=
  entity.fieldNames.map fun field => (field, (row.get? (entity.columnLabel field)).getD .null)

/-- Whether a record has no value at all. -/
def isBlankRecord (record : Record) : Bool :=
  record.all fun (_, value) => value.isNull

/-- The records of one related entity so far. -/
structure Branch where
  /-- The entity. -/
  entity : EntitySchema
  /-- Its records in the order in which they came. -/
  records : List Record
  /-- The identities of the records that came. -/
  seen : List Identity
  deriving Repr

/-- The branch without records. -/
def Branch.start (entity : EntitySchema) : Branch := ⟨entity, [], []⟩

/-- The branch with one more record, unless its identifier came before. -/
def Branch.include (branch : Branch) (record : Record) (identifier : Value) : Except Misuse Branch :=
  match identifier.distinction with
  | .none => .error .wrongKind
  | .unique => .ok { branch with records := branch.records ++ [record] }
  | .by identity =>
    if branch.seen.contains identity then .ok branch
    else .ok ⟨branch.entity, branch.records ++ [record], branch.seen ++ [identity]⟩

/-- The branch with the record of a row: nothing comes in without a value or without an identifier. -/
def Branch.add (branch : Branch) (row : Entries Value) : Except Misuse Branch :=
  let record := branch.entity.extract row
  let identifier := (record.get? branch.entity.identifierField).getD .null
  if isBlankRecord record || identifier.isNull then .ok branch
  else branch.include record identifier

/-- The records of a query so far. -/
structure Gathering where
  /-- The primary record, taken from the first row. -/
  primary : Option Record
  /-- The related entities in the order of their joins. -/
  branches : List Branch
  deriving Repr

/-- No records yet. -/
def Gathering.start (plan : Plan) : Gathering :=
  ⟨none, plan.related.map Branch.start⟩

/-- Adds a row to branch after branch, up to one that cannot take it. -/
def addToBranches (row : Entries Value) : List Branch → List Branch × Option Misuse
  | [] => ([], none)
  | branch :: rest =>
    match branch.add row with
    | .error misuse => (branch :: rest, some misuse)
    | .ok added =>
      let (others, misuse) := addToBranches row rest
      (added :: others, misuse)

/-- The records with those of one more row; what came before a record that cannot be told apart stays. -/
def Gathering.add (plan : Plan) (gathering : Gathering) (row : Entries Value) :
    Gathering × Option Misuse :=
  let primary := gathering.primary.getD (plan.primary.extract row)
  let (branches, misuse) := addToBranches row gathering.branches
  (⟨some primary, branches⟩, misuse)

/--
The records with those of a value that should be a row.

Where there is nothing to take from it, nothing is missed.
-/
def Gathering.addValue (plan : Plan) (gathering : Gathering) (value : Value) :
    Gathering × Option Misuse :=
  match value with
  | .map row => gathering.add plan row
  | _ =>
    if gathering.primary.isSome && gathering.branches.isEmpty then (gathering, none)
    else (gathering, some .noSuchMember)

/-- The records of several rows, up to one that cannot be taken. -/
def Gathering.addAll (plan : Plan) (gathering : Gathering) : List Value → Except Misuse Gathering
  | [] => .ok gathering
  | row :: rest =>
    match gathering.addValue plan row with
    | (_, some misuse) => .error misuse
    | (gathering, none) => gathering.addAll plan rest

/-- The fields of a record that are kept, letter case aside. -/
def keepFields (fields : List String) (record : Record) : Record :=
  record.filter fun (name, _) => fields.contains (lowered name)

/-- The fields that a plan keeps of an entity, when it keeps only some. -/
def Plan.keptFields? (plan : Plan) (key : String) : Option (List String) :=
  (plan.selectedFields.get? key).filter (!·.isEmpty)

/-- A record with the fields that a plan keeps of its entity. -/
def Plan.project (plan : Plan) (key : String) (record : Record) : Record :=
  match plan.keptFields? key with
  | none => record
  | some fields => keepFields fields record

/-- Whether a plan keeps an entity. -/
def Plan.keeps (plan : Plan) (key : String) : Bool :=
  plan.selectedEntities.isEmpty || plan.selectedEntities.contains key

/-- What a result says about one entity. -/
structure Section where
  /-- The entity's name in lower case. -/
  key : String
  /-- Its record or its records. -/
  content : Value
  /-- How many records there are. -/
  count : Int

/-- What a result says about the primary entity. -/
def Gathering.primarySection (plan : Plan) (gathering : Gathering) : Section :=
  let key := plan.primary.key
  match gathering.primary with
  | none => ⟨key, .null, 0⟩
  | some record => ⟨key, .map (plan.project key record), 1⟩

/-- What a result says about a related entity. -/
def Branch.section (plan : Plan) (branch : Branch) : Section :=
  let key := branch.entity.key
  ⟨key, .list (branch.records.map fun record => .map (plan.project key record)),
    branch.records.length⟩

/-- What a result says about each entity that is kept. -/
def Gathering.sections (plan : Plan) (gathering : Gathering) : List Section :=
  (gathering.primarySection plan :: gathering.branches.map (·.section plan)).filter
    fun part => plan.keeps part.key

/-- The warnings of a plan in the form of texts. -/
def Plan.warningTexts (plan : Plan) : List String :=
  plan.warnings.map (·.message)

/-- The warning about a field that filters may not use. -/
def ignoredFieldWarning (field : String) : String :=
  "Filter field '" ++ field ++ "' is not filterable and was ignored"

/-- The result that the gathered records make. -/
def Gathering.toResult (plan : Plan) (gathering : Gathering) : QueryResult :=
  let sections := gathering.sections plan
  { success := true
    error := none
    data := sections.map fun part => (part.key, part.content)
    counts := sections.map fun part => (part.key, part.count)
    warnings := plan.warningTexts ++ plan.rejectedFields.map ignoredFieldWarning }

/-- The result of a plan for the rows of its statement. -/
def Plan.materialize (plan : Plan) (rows : List Value) : Except Misuse QueryResult := do
  let gathering ← (Gathering.start plan).addAll plan rows
  return gathering.toResult plan

end Joinery
