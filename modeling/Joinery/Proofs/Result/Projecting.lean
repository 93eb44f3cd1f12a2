import Joinery.Proofs.Plan.Projecting
import Joinery.Proofs.Result.Retelling

/-! A result that keeps only some entities and fields is a part of the result that keeps them all. -/

namespace Joinery

/-- Whether an entity is kept: it is among those to keep, or there are none of these. -/
def Projection.keeps (projection : Projection) (key : String) : Bool :=
  projection.entities.isEmpty || projection.entities.contains key

/-- A record with the fields that are kept of its entity, letter case aside, in the order of the record. -/
def Projection.ofRecord (projection : Projection) (key : String) (record : Record) : Record :=
  if (projection.fields key).isEmpty then record
  else record.filter fun (name, _) => (projection.fields key).contains (lowered name)

/-- The value of one record. -/
def Projection.ofItem (projection : Projection) (key : String) : Value → Value
  | .map record => .map (projection.ofRecord key record)
  | value => value

/-- What a result says about an entity: a record, a list of records, or nothing. -/
def Projection.ofContent (projection : Projection) (key : String) : Value → Value
  | .list records => .list (records.map (projection.ofItem key))
  | value => projection.ofItem key value

/-- The part of a result that is kept: entities are dropped with their counts, and fields from records. -/
def Projection.ofResult (projection : Projection) (result : QueryResult) : QueryResult :=
  { result with
    data := (result.data.filter fun (key, _) => projection.keeps key).map fun (key, content) =>
      (key, projection.ofContent key content)
    counts := result.counts.filter fun (key, _) => projection.keeps key }

variable {plan : Plan} {query : Query}

/-- Of an entity, a plan keeps the fields that its query keeps; without any it keeps them all. -/
theorem Plan.project_keeping (plan : Plan) (query : Query) (key : String) (record : Record) :
    (plan.keeping query).project key record = query.projection.ofRecord key record := by
  -- The last list under a name in lower case is the one that the plan finds.
  have found : query.projection.fields key =
      ((plan.keeping query).selectedFields.get? key).getD [] := by
    rw [keeping, Entries.get?_ofPairs_eq_getLast?, List.filterMap_map]
    rfl
  rw [Plan.project, keptFields?, Projection.ofRecord, found]
  cases (plan.keeping query).selectedFields.get? key with
  | none => rfl
  | some fields => cases fields <;> rfl

/-- A plan that keeps everything leaves records as they are. -/
theorem Plan.project_of_nil (all : plan.selectedFields = []) (key : String) (record : Record) :
    plan.project key record = record := by
  -- No field list is found where there is none.
  rw [project, keptFields?, all]
  rfl

variable (gathering : Gathering)

/-- A section with only what is kept of its entity. -/
def Projection.ofSection (projection : Projection) (part : Section) : Section :=
  { part with content := projection.ofContent part.key part.content }

/-- The primary entity's section of a plan that keeps only a part, cut down from the one that keeps everything. -/
theorem Gathering.primarySection_keeping (every : plan.selectedFields = []) :
    gathering.primarySection (plan.keeping query) =
      query.projection.ofSection (gathering.primarySection plan) := by
  -- The section is that of one record or of none, and both are cut down in the same way.
  rw [primarySection, primarySection]
  cases gathering.primary with
  | none => rfl
  | some record =>
    simp only [plan.project_keeping, Plan.project_of_nil every]
    rfl

/-- So are the sections of the related entities. -/
theorem Branch.section_keeping (every : plan.selectedFields = []) (branch : Branch) :
    branch.section (plan.keeping query) = query.projection.ofSection (branch.section plan) := by
  -- The section is a list of records, each of which is cut down.
  simp only [Branch.section, plan.project_keeping, Plan.project_of_nil every,
    Projection.ofSection, Projection.ofContent, List.map_map]
  rfl

/-- The sections of a plan that keeps only a part are those of the plan that keeps everything, cut down. -/
theorem Gathering.sections_keeping (everyEntity : plan.selectedEntities = [])
    (everyField : plan.selectedFields = []) :
    gathering.sections (plan.keeping query) =
      ((gathering.sections plan).filter fun part => query.projection.keeps part.key).map
        query.projection.ofSection := by
  -- The sections that are left are those of the entities that are kept.
  have all : gathering.sections plan =
      gathering.primarySection plan :: gathering.branches.map (·.section plan) :=
    List.filter_eq_self.mpr fun part _ => by rw [Plan.keeps, everyEntity]; rfl
  have cut : gathering.primarySection (plan.keeping query) ::
        gathering.branches.map (·.section (plan.keeping query)) =
      (gathering.sections plan).map query.projection.ofSection := by
    rw [all, List.map_cons, List.map_map, gathering.primarySection_keeping everyField]
    simp only [Branch.section_keeping everyField, Function.comp_def]
  rw [sections, cut, List.filter_map]
  rfl

/-- The result of a plan that keeps only a part is that part of the result with everything. -/
theorem Gathering.toResult_keeping (everyEntity : plan.selectedEntities = [])
    (everyField : plan.selectedFields = []) :
    gathering.toResult (plan.keeping query) =
      query.projection.ofResult (gathering.toResult plan) := by
  -- Data and counts are made of the sections.
  simp only [toResult, Projection.ofResult, gathering.sections_keeping everyEntity everyField,
    List.filter_map, List.map_map]
  rfl

end Joinery
