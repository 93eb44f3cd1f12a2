import Joinery.Proofs.Plan.Cap
import Joinery.Proofs.Result.Identifiers
import Joinery.Proofs.Service.Branches
import Joinery.Proofs.Service.Running

/-! An answer holds the admitted primary row with the least identifier, whatever is joined to it. -/

namespace Joinery

variable {service : Service} {query : Query} {rows : List FetchedRow} {gathering : Gathering}
  {result : QueryResult} {parts : Planning service.registry query}

/-- A primary row that the filter of a query admits. -/
def Admitted (database : Database) (primary : EntitySchema) (filter : Option Filter) (row : Row) :
    Prop :=
  -- It stands in the table, and all conditions hold of it.
  row ∈ (database.recordsOf primary).rows ∧
    primary.admits filter (database.recordsOf primary) row = true

/-- The admitted primary row whose identifier is smaller than those of all others. -/
structure LeastAdmitted (database : Database) (primary : EntitySchema) (filter : Option Filter)
    (row : Row) : Prop where
  /-- The row is admitted itself. -/
  admitted : Admitted database primary filter row
  /-- Every other admitted row has a larger identifier. -/
  least : ∀ other, Admitted database primary filter other → other ≠ row →
    (primary.identifierCell (database.recordsOf primary) row).order
      (primary.identifierCell (database.recordsOf primary) other) = .lt

/-- What is neither larger nor equal is smaller. -/
theorem lt_of_ne_of_ne {order : Ordering} (notLarger : order ≠ .gt) (notEqual : order ≠ .eq) :
    order = .lt := by
  -- There is no fourth case.
  cases order <;> simp_all

/-- Lists of cells are in order only when their first cells are. -/
theorem head_ne_gt_of_orderCells {a b : Cell} {as bs : List Cell}
    (ordered : orderCells (a :: as) (b :: bs) ≠ .gt) : a.order b ≠ .gt := by
  -- A first difference decides the order.
  intro larger
  rw [orderCells, larger] at ordered
  contradiction

/-- The first cell of a sort key is the identifier of the primary row. -/
theorem Planning.sortKey_eq_cons (parts : Planning service.registry query) (database : Database)
    (joined : JoinedRow) :
    ∃ rest, parts.plan.statement.sortKey
      (parts.plan.statement.sources database parts.plan.parameters) joined =
        parts.primary.identifierCell (database.recordsOf parts.primary) (joined.getD 0 []) :: rest := by
  -- Rows are sorted by the primary identifier first.
  exact ⟨_, rfl⟩

/-- Every admitted primary row stands in some joined row, whatever is joined to it. -/
theorem Planning.exists_joined_of_admitted (parts : Planning service.registry query)
    {database : Database} {row : Row} (admitted : Admitted database parts.primary query.filter row) :
    ∃ joined ∈ parts.plan.statement.joinedRows database parts.plan.parameters,
      joined.getD 0 [] = row := by
  -- No join drops a row that stands before it.
  exact Statement.exists_joined_of_reaches parts.parentsBefore
    (.primary (parts.mem_primaryRows.mpr admitted))

/-- The first row of every joined row is an admitted primary row. -/
theorem Planning.admitted_of_joined (parts : Planning service.registry query) {database : Database}
    {joined : JoinedRow}
    (member : joined ∈ parts.plan.statement.joinedRows database parts.plan.parameters) :
    Admitted database parts.primary query.filter (joined.getD 0 []) := by
  -- Joined rows begin with primary rows.
  exact parts.mem_primaryRows.mp (Statement.head_mem_primaryRows member)

/-- No admitted primary row has a smaller identifier than the first returned row. -/
theorem Planning.head_least (parts : Planning service.registry query) {database : Database}
    (positive : 0 < parts.cap) {joined : JoinedRow} {row : Row}
    (first : (parts.plan.statement.resultRows database parts.plan.parameters).head? = some joined)
    (admitted : Admitted database parts.primary query.filter row) :
    (parts.primary.identifierCell (database.recordsOf parts.primary) (joined.getD 0 [])).order
      (parts.primary.identifierCell (database.recordsOf parts.primary) row) ≠ .gt := by
  -- The rows are sorted by the primary identifier before anything else.
  obtain ⟨other, member, same⟩ := parts.exists_joined_of_admitted admitted
  have ordered := Statement.head_resultRows_least positive first member
  obtain ⟨_, key⟩ := parts.sortKey_eq_cons database joined
  obtain ⟨_, otherKey⟩ := parts.sortKey_eq_cons database other
  rw [key, otherKey, same] at ordered
  exact head_ne_gt_of_orderCells ordered

/-- The primary record of an answer was read from the first returned row. -/
theorem Service.Answered.primary_of_head
    (answered : service.Answered query parts.plan rows gathering result)
    (distinct : (parts.plan.statement.columns.map (·.label)).Nodup) {joined : JoinedRow}
    (first : (parts.plan.statement.resultRows service.database parts.plan.parameters).head? =
      some joined) :
    ∃ record, parts.primary.readRow (service.database.recordsOf parts.primary)
      (joined.getD 0 []) = .ok record ∧ gathering.primary = some record := by
  -- The first fetched row is that of the first returned one.
  obtain ⟨rest, same⟩ := List.head?_eq_some_iff.mp first
  have aligned := answered.fetched
  rw [same] at aligned
  cases rows with
  | nil => contradiction
  | cons fetched others =>
    obtain ⟨built, _⟩ := List.forall₂_cons.mp aligned
    have read := parts.readRow_primary distinct built
    exact ⟨_, read, Gathering.primary_ok answered.gathered⟩

/-- As soon as a primary row is admitted, the primary record is that of the least one. -/
theorem Service.Answered.primary_of_admitted
    (answered : service.Answered query parts.plan rows gathering result)
    (distinct : (parts.plan.statement.columns.map (·.label)).Nodup) (positive : 0 < parts.cap)
    (apart : (service.database.recordsOf parts.primary).rows.Pairwise
      (parts.primary.StoredApart (service.database.recordsOf parts.primary)))
    (some_ : ∃ row, Admitted service.database parts.primary query.filter row) :
    ∃ row record, LeastAdmitted service.database parts.primary query.filter row ∧
      parts.primary.readRow (service.database.recordsOf parts.primary) row = .ok record ∧
      gathering.primary = some record := by
  -- The first returned row begins with a row that is not larger than any, and equal to none.
  obtain ⟨row, admittedRow⟩ := some_
  obtain ⟨reached, memberReached, _⟩ := parts.exists_joined_of_admitted admittedRow
  obtain ⟨joined, first⟩ := Statement.exists_head_resultRows positive memberReached
  have admitted := parts.admitted_of_joined
    (Statement.mem_joinedRows_of_mem_resultRows (List.mem_of_head? first))
  obtain ⟨record, read, primary⟩ := answered.primary_of_head distinct first
  refine ⟨_, record, ⟨admitted, fun other otherAdmitted different => ?_⟩, read, primary⟩
  have unequal := apart.forall admitted.1 otherAdmitted.1 different.symm
  rw [EntitySchema.StoredApart, Cell.same, beq_eq_false_iff_ne] at unequal
  exact lt_of_ne_of_ne (parts.head_least positive first otherAdmitted) unequal

/-- When no primary row is admitted, there is no primary record. -/
theorem Service.Answered.primary_of_none
    (answered : service.Answered query parts.plan rows gathering result)
    (none_ : ¬ ∃ row, Admitted service.database parts.primary query.filter row) :
    gathering.primary = none := by
  -- Every returned row would begin with an admitted one.
  cases rows with
  | nil => exact Gathering.primary_ok answered.gathered
  | cons fetched others =>
    obtain ⟨joined, returned, _⟩ := exists_left_of_aligned answered.fetched List.mem_cons_self
    exact absurd ⟨_, parts.admitted_of_joined
      (Statement.mem_joinedRows_of_mem_resultRows returned)⟩ none_

/--
The primary record of an answer is that of the admitted primary row with the least identifier.

There is none exactly when no row is admitted, whatever entities are joined, filtered or capped.
-/
theorem Service.primary_record_least {named : List (String × EntitySchema)}
    {defaultLimit maxLimit : Int} {signal : CancelSignal} {plan : Plan}
    (built : Registry.ofEntities named defaultLimit maxLimit = .ok service.registry)
    (planned : service.registry.plan query = .ok plan)
    (distinct : (plan.statement.columns.map (·.label)).Nodup)
    (declared : query.maxRows.isDeclaredCap = true)
    (apart : (service.database.recordsOf plan.primary).rows.Pairwise
      (plan.primary.StoredApart (service.database.recordsOf plan.primary)))
    (executed : service.execute query signal = .ok result) (succeeded : result.success = true)
    (kept : plan.keeps plan.primary.key = true) :
    ((∃ row, Admitted service.database plan.primary query.filter row) →
      ∃ row record, LeastAdmitted service.database plan.primary query.filter row ∧
        plan.primary.readRow (service.database.recordsOf plan.primary) row = .ok record ∧
        result.data.get? plan.primary.key =
          some (.map (plan.project plan.primary.key record)) ∧
        result.counts.get? plan.primary.key = some 1) ∧
      ((¬ ∃ row, Admitted service.database plan.primary query.filter row) →
        result.data.get? plan.primary.key = some .null ∧
          result.counts.get? plan.primary.key = some 0) := by
  -- The section of the primary entity tells the record that was gathered, or that there is none.
  obtain ⟨defaultPos, maxPos, _⟩ := Registry.ofEntities_ok built
  obtain ⟨parts, rfl⟩ := Registry.plan_ok planned
  obtain ⟨_, rows, gathering, answered⟩ := Service.answered_of_execute executed succeeded
  cases planned.symm.trans answered.planned
  have positive := Query.plannedCap_pos defaultPos maxPos declared parts.capped
  have told := answered.get? List.mem_cons_self
  constructor
  · intro some_
    obtain ⟨row, record, least, read, primary⟩ :=
      answered.primary_of_admitted distinct positive apart some_
    simp only [Gathering.primarySection, primary] at told
    exact ⟨row, record, least, read, told kept⟩
  · intro none_
    simp only [Gathering.primarySection, answered.primary_of_none none_] at told
    exact told kept

/-- Of the two owners the one with the smaller identifier is returned. -/
theorem Service.first_owner_returned :
    petService.execute (petQuery none) .quiet = .ok petResult ∧
    ∃ row record, LeastAdmitted petService.database petPlan.primary (petQuery none).filter row ∧
      petPlan.primary.readRow (petService.database.recordsOf petPlan.primary) row = .ok record ∧
      petResult.data.get? petPlan.primary.key =
        some (.map (petPlan.project petPlan.primary.key record)) ∧
      petResult.counts.get? petPlan.primary.key = some 1 := by
  -- Every premise is evaluated, and both owners are admitted.
  have built : (Registry.ofEntities petRegistry.entities 100 1000).toOption =
      some petService.registry := by decide +kernel
  have admitted : Admitted petService.database petPlan.primary (petQuery none).filter
      [.text "A", .text "Rome"] := ⟨by decide +kernel, by decide +kernel⟩
  exact ⟨petResult_executed, (Service.primary_record_least (eq_ok_of_toOption built)
    petPlan_planned (by decide +kernel) (by decide +kernel) (by decide +kernel) petResult_executed
    rfl (by decide +kernel)).1 ⟨_, admitted⟩⟩

end Joinery
