import Joinery.Proofs.Result.Identifiers
import Joinery.Proofs.Service.Branches

/-! An answer that is not cut off lists the record of every reached row of an entity once, and no other. -/

namespace Joinery

variable {service : Service} {query : Query} {step : JoinStep} {rows : List FetchedRow}
  {gathering : Gathering} {result : QueryResult} {branch : Branch} {row : Row}

/-- A reached row of a joined entity stands in the source of its join. -/
theorem Statement.Reaches.mem_source {statement : Statement} {database : Database}
    {parameters : List Parameter} {i : Nat}
    (reached : statement.Reaches database parameters (i + 1) row) :
    row ∈ (sourceAt (statement.sources database parameters) (i + 1)).rows := by
  -- A row below the primary entity is reached through its join only.
  cases reached with
  | joined at_ _ member _ => exact Statement.sourceAt_succ at_ ▸ member

/-- What a plan needs to list the records of a step exactly: identifiers that tell its rows apart. -/
structure Planning.Listing (parts : Planning service.registry query) (i : Nat) (step : JoinStep) :
    Prop where
  /-- The step stands at this place. -/
  at_ : parts.order.steps[i]? = some step
  /-- Its records are identified by one of their fields. -/
  declared : step.entity.declares step.entity.identifierField = true
  /-- No column hides another one. -/
  distinct : (parts.plan.statement.columns.map (·.label)).Nodup
  /-- The identifiers tell apart the rows that its join can match. -/
  identified : step.entity.Identified
    (sourceAt (parts.plan.statement.sources service.database parts.plan.parameters) (i + 1))
  /-- The joined rows are not cut off. -/
  complete : (parts.plan.statement.joinedRows service.database parts.plan.parameters).length ≤
    parts.plan.statement.cap

variable {parts : Planning service.registry query} {i : Nat}

/-- A reached row can be read, and its identity is that of a listed record. -/
theorem Planning.Listing.listed_of_reached (listing : parts.Listing i step)
    (answered : service.Answered query parts.plan rows gathering result)
    (gathered : branch.Gathered step.entity rows)
    (reached : parts.plan.statement.Reaches service.database parts.plan.parameters (i + 1) row) :
    ∃ own, step.entity.readRow (sourceAt (parts.plan.statement.sources service.database
        parts.plan.parameters) (i + 1)) row = .ok own ∧
      ∃ record ∈ branch.records,
        step.entity.distinctionOf own = step.entity.distinctionOf record := by
  -- The row stands in some joined row, which is returned, fetched and gathered.
  obtain ⟨joined, inside, same⟩ := Statement.exists_joined_of_reaches parts.parentsBefore reached
  obtain ⟨fetched, among, built⟩ := exists_right_of_aligned answered.fetched
    (Statement.mem_resultRows_of_complete listing.complete inside)
  have read := parts.readRow_step listing.distinct built listing.at_
  rw [same] at read
  obtain ⟨present, identity, distinction⟩ :=
    listing.identified.distinction_of_readRow listing.declared reached.mem_source read
  obtain ⟨record, listed, equal⟩ :=
    gathered.held _ (gathered.represented fetched among present identity distinction)
  exact ⟨_, read, record, listed, distinction.trans equal.symm⟩

/-- The records of a branch are those of the reached rows, row by row. -/
theorem Planning.Listing.branch_records (listing : parts.Listing i step)
    (answered : service.Answered query parts.plan rows gathering result)
    (gathered : branch.Gathered step.entity rows) :
    ∃ found : List Row, found.Nodup ∧
      (∀ row, row ∈ found ↔
        parts.plan.statement.Reaches service.database parts.plan.parameters (i + 1) row) ∧
      List.Forall₂ (fun row record => step.entity.readRow (sourceAt
        (parts.plan.statement.sources service.database parts.plan.parameters) (i + 1)) row =
          .ok record) found branch.records := by
  -- Each record is put beside a row that it was read from, and identities settle the rest.
  have declared := listing.declared
  have identified := listing.identified
  -- Each record was read from a reached row; the rows are told apart as their records are.
  obtain ⟨found, aligned⟩ := exists_aligned fun record member =>
    answered.record_origin listing.distinct listing.at_ declared gathered member
  have reached : ∀ row ∈ found, parts.plan.statement.Reaches service.database
      parts.plan.parameters (i + 1) row := by
    intro row member
    obtain ⟨_, _, known, _⟩ := exists_right_of_aligned aligned member
    exact known
  refine ⟨found, ?_, fun row => ⟨reached row, fun chained => ?_⟩, aligned.imp fun _ _ pair => pair.2⟩
  · refine pairwise_of_aligned aligned gathered.apart ?_
    rintro a b first second ⟨chained, readA⟩ ⟨_, readB⟩ apart rfl
    obtain ⟨_, identity, distinction⟩ :=
      identified.distinction_of_readRow declared chained.mem_source readA
    cases readA.symm.trans readB
    exact apart identity distinction distinction
  -- A reached row shares its identity with a listed record, so it is the row of that record.
  · obtain ⟨own, read, record, listed, same⟩ :=
      listing.listed_of_reached answered gathered chained
    obtain ⟨other, inside, otherChained, otherRead⟩ := exists_left_of_aligned aligned listed
    rwa [identified.eq_of_distinction declared chained.mem_source otherChained.mem_source read
      otherRead same]

end Joinery
