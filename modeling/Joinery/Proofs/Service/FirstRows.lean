import Joinery.Proofs.Plan.Keyed
import Joinery.Proofs.Result.Newcomers
import Joinery.Proofs.Service.Branches

/-! The records of a related entity come from the first returned row that has each of them. -/

namespace Joinery

variable {entity : EntitySchema} {sources : List Relation} {source : Nat} {joined other : JoinedRow}

/-- The record that an entity has in a joined row. -/
def EntitySchema.recordAt (entity : EntitySchema) (sources : List Relation) (source : Nat)
    (joined : JoinedRow) : Record :=
  (entity.readRow (sourceAt sources source) (joined.getD source [])).toOption.getD []

/-- The joined rows in which an entity has a record with a new identifier. -/
def EntitySchema.firstRows (entity : EntitySchema) (sources : List Relation) (source : Nat)
    (rows : List JoinedRow) : List JoinedRow :=
  let record := entity.recordAt sources source
  newcomers (fun before joined => entity.isNew (before.map record) (record joined)) [] rows

/-- Where sources and rows are the same, so are the records. -/
theorem EntitySchema.recordAt_ext {others : List Relation} {place : Nat}
    (relation : sourceAt others place = sourceAt sources source)
    (row : other.getD place [] = joined.getD source []) :
    entity.recordAt others place other = entity.recordAt sources source joined := by
  -- Nothing else of the sources and of the rows is read.
  rw [recordAt, recordAt, relation, row]

/-- A record depends on the row at its source alone. -/
theorem EntitySchema.recordAt_congr (same : joined.getD source [] = other.getD source []) :
    entity.recordAt sources source joined = entity.recordAt sources source other :=
  recordAt_ext rfl same

/-- What is read at a source is the record there. -/
theorem EntitySchema.recordAt_of_readRow {record : Record}
    (read : entity.readRow (sourceAt sources source) (joined.getD source []) = .ok record) :
    entity.recordAt sources source joined = record := by
  -- What is read successfully is what is taken.
  rw [recordAt, read]
  rfl

variable {service : Service} {query : Query} {parts : Planning service.registry query}
  {step : JoinStep} {rows : List FetchedRow} {gathering : Gathering} {result : QueryResult}
  {branch : Branch} {i : Nat}

/-- In every returned row an entity has a record, which is read from the row at its source. -/
theorem Service.Answered.readRow_recordAt
    (answered : service.Answered query parts.plan rows gathering result)
    (distinct : (parts.plan.statement.columns.map (·.label)).Nodup)
    (at_ : parts.order.steps[i]? = some step)
    (returned : joined ∈ parts.plan.statement.resultRows service.database parts.plan.parameters) :
    let sources := parts.plan.statement.sources service.database parts.plan.parameters
    step.entity.readRow (sourceAt sources (i + 1)) (joined.getD (i + 1) []) =
      .ok (step.entity.recordAt sources (i + 1) joined) := by
  -- The row was fetched, so everything in it can be read.
  obtain ⟨fetched, _, built⟩ := exists_right_of_aligned answered.fetched returned
  have read := parts.readRow_step distinct built at_
  simp only
  rw [read, EntitySchema.recordAt_of_readRow read]

/-- The records that an entity has in fetched rows are those that it has in the joined rows. -/
theorem Planning.map_extract_eq {registry : Registry} (parts : Planning registry query)
    (distinct : (parts.plan.statement.columns.map (·.label)).Nodup)
    (at_ : parts.entities[source]? = some entity) {returned : List JoinedRow}
    (fetched : List.Forall₂ (fun joined row =>
      fetchRow parts.plan.statement.columns parts.plan.resultTypes sources joined = .ok row)
      returned rows) :
    rows.map entity.extract = returned.map (entity.recordAt sources source) := by
  -- Row by row the fetched record is the one at the source.
  induction fetched with
  | nil => rfl
  | cons built _ ih =>
    rw [List.map_cons, List.map_cons, ih,
      EntitySchema.recordAt_of_readRow (parts.readRow_at distinct built at_)]

/-- A branch lists the records of the returned rows in which they are new. -/
theorem Service.Answered.records_eq
    (answered : service.Answered query parts.plan rows gathering result)
    (distinct : (parts.plan.statement.columns.map (·.label)).Nodup)
    (at_ : parts.order.steps[i]? = some step)
    (added : rows.foldlM Branch.add (Branch.start step.entity) = .ok branch) :
    let sources := parts.plan.statement.sources service.database parts.plan.parameters
    branch.records = (step.entity.firstRows sources (i + 1)
      (parts.plan.statement.resultRows service.database parts.plan.parameters)).map
        (step.entity.recordAt sources (i + 1)) := by
  -- The records are collected from the rows in their order.
  simp only
  rw [Branch.records_eq_newcomers added,
    parts.map_extract_eq distinct (parts.entity_at at_) answered.fetched,
    EntitySchema.firstRows]
  exact newcomers_map step.entity.isNew _ [] _

/-- A record with an identifier was read from a row that the join of its entity can match. -/
theorem Service.Answered.mem_source
    (answered : service.Answered query parts.plan rows gathering result)
    (distinct : (parts.plan.statement.columns.map (·.label)).Nodup)
    (at_ : parts.order.steps[i]? = some step)
    (declared : step.entity.declares step.entity.identifierField = true)
    (returned : joined ∈ parts.plan.statement.resultRows service.database parts.plan.parameters)
    (identified : step.entity.identifies (step.entity.recordAt
      (parts.plan.statement.sources service.database parts.plan.parameters) (i + 1) joined) = true) :
    joined.getD (i + 1) [] ∈ (sourceAt
      (parts.plan.statement.sources service.database parts.plan.parameters) (i + 1)).rows := by
  obtain ⟨_, found, _⟩ := parts.join_at at_
  have attached := Statement.attached_of_mem_joinedRows parts.parentsBefore
    (Statement.mem_joinedRows_of_mem_resultRows returned) found
  rw [← Statement.sourceAt_succ found] at attached
  rcases attached with ⟨member, _⟩ | ⟨empty, _⟩
  · exact member
  · -- The row without values has no identifier.
    have read := answered.readRow_recordAt distinct at_ returned
    have field := EntitySchema.readRow_identifier declared read
    have column := parts.hasColumn_of_declares (Statement.resolved_of_check answered.checked)
      (parts.entity_at at_) (EntitySchema.mem_fieldNames declared)
    have missing := Cell.isNull_of_fetch field
    rw [empty, Relation.cell_nullRow column] at missing
    rw [EntitySchema.identifies, missing] at identified
    contradiction

/-- A record of a table with identifiers has an identity. -/
theorem Service.Answered.distinction_of_new
    (answered : service.Answered query parts.plan rows gathering result)
    (distinct : (parts.plan.statement.columns.map (·.label)).Nodup)
    (at_ : parts.order.steps[i]? = some step)
    (declared : step.entity.declares step.entity.identifierField = true)
    (keyed : step.entity.Keyed (sourceAt
      (parts.plan.statement.sources service.database parts.plan.parameters) (i + 1)))
    (returned : joined ∈ parts.plan.statement.resultRows service.database parts.plan.parameters)
    (identified : step.entity.identifies (step.entity.recordAt
      (parts.plan.statement.sources service.database parts.plan.parameters) (i + 1) joined) = true) :
    ∃ identity, step.entity.distinctionOf (step.entity.recordAt
      (parts.plan.statement.sources service.database parts.plan.parameters) (i + 1) joined) =
        .by identity := by
  -- Its identifier was fetched from a cell of the table.
  have member := answered.mem_source distinct at_ declared returned identified
  have read := answered.readRow_recordAt distinct at_ returned
  exact (EntitySchema.distinction_of_usable declared (keyed.present _ member).2 read).2

end Joinery
