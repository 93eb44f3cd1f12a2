import Joinery.Proofs.Service.FirstRows
import Joinery.Proofs.Service.OtherBranches
import Joinery.Proofs.Service.PrimaryRecord

/-! What hangs from a single primary row is listed in the order of its identifiers. -/

namespace Joinery

variable {service : Service} {query : Query} {parts : Planning service.registry query}
  {step : JoinStep} {rows : List FetchedRow} {gathering : Gathering} {result : QueryResult}
  {i : Nat} {entity : EntitySchema} {sources : List Relation} {source : Nat}
  {joined other : JoinedRow}

/-- Where two joined rows have one row, the record of one is not new once the other came. -/
theorem EntitySchema.not_isNew_of_same {before : List JoinedRow}
    (same : joined.getD source [] = other.getD source []) (came : joined ∈ before)
    (told : ∃ identity, entity.distinctionOf (entity.recordAt sources source other) = .by identity)
    (new : entity.isNew (before.map (entity.recordAt sources source))
      (entity.recordAt sources source other) = true) : False := by
  obtain ⟨identified, different⟩ := isNew_iff.mp new
  have apart := different _ (List.mem_map_of_mem came)
  rw [recordAt_congr same] at apart
  -- A record with an identity is the same as itself.
  obtain ⟨identity, found⟩ := told
  rw [isSame_iff.mpr ⟨identified, identity, found, found⟩] at apart
  contradiction

/-- Where no two primary rows are admitted, joined rows agree above a source that hangs from the primary one. -/
theorem Planning.agreeAbove_of_single {database : Database} {join : Join}
    (joinAt : parts.plan.statement.joins[i]? = some join) (direct : join.parent.source = 0)
    (single : ∀ row paired, Admitted database parts.primary query.filter row →
      Admitted database parts.primary query.filter paired → paired = row)
    (member : joined ∈ parts.plan.statement.joinedRows database parts.plan.parameters)
    (otherMember : other ∈ parts.plan.statement.joinedRows database parts.plan.parameters) :
    parts.AgreeAbove (i + 1) joined other := by
  -- Above the source there is only the primary row.
  rintro j above same found
  cases same
  cases joinAt.symm.trans found
  rw [direct]
  exact single _ _ (parts.admitted_of_joined otherMember) (parts.admitted_of_joined member)

/-- The row of a joined row came before a returned one with a larger identifier, if they agree above it. -/
theorem Planning.exists_earlier {database : Database} {front back : List JoinedRow}
    (split : parts.plan.statement.resultRows database parts.plan.parameters =
      front ++ joined :: back)
    (otherMember : other ∈ parts.plan.statement.joinedRows database parts.plan.parameters)
    (agree : parts.AgreeAbove source joined other) (at_ : parts.entities[source]? = some entity)
    (less : (entity.identifierCell
        (sourceAt (parts.plan.statement.sources database parts.plan.parameters) source)
        (other.getD source [])).order
      (entity.identifierCell
        (sourceAt (parts.plan.statement.sources database parts.plan.parameters) source)
        (joined.getD source [])) = .lt) :
    ∃ earlier ∈ front, earlier.getD source [] = other.getD source [] := by
  have returned : joined ∈ parts.plan.statement.resultRows database parts.plan.parameters := by
    rw [split]
    simp
  -- With that row in its place the returned one is a smaller joined row.
  obtain ⟨grafted, inside, below, smaller⟩ := Planning.exists_smaller
    (Statement.mem_joinedRows_of_mem_resultRows returned) otherMember agree at_ less
  exact ⟨grafted, Statement.mem_front_of_smaller split inside smaller, below source .itself⟩

/-- What is listed of an entity was read from the rows of its source. -/
theorem Service.Answered.firstRow_origin
    (answered : service.Answered query parts.plan rows gathering result)
    (distinct : (parts.plan.statement.columns.map (·.label)).Nodup)
    (at_ : parts.order.steps[i]? = some step)
    (declared : step.entity.declares step.entity.identifierField = true) :
    let sources := parts.plan.statement.sources service.database parts.plan.parameters
    ∀ joined ∈ step.entity.firstRows sources (i + 1)
        (parts.plan.statement.resultRows service.database parts.plan.parameters),
      joined.getD (i + 1) [] ∈ (sourceAt sources (i + 1)).rows ∧
        step.entity.readRow (sourceAt sources (i + 1)) (joined.getD (i + 1) []) =
          .ok (step.entity.recordAt sources (i + 1) joined) := by
  intro sources joined member
  -- A first row is a returned one, and its record has an identifier.
  obtain ⟨front, back, split, new⟩ := mem_newcomers member
  have returned : joined ∈
      parts.plan.statement.resultRows service.database parts.plan.parameters := by
    rw [split]
    simp
  exact ⟨answered.mem_source distinct at_ declared returned (EntitySchema.isNew_iff.mp new).1,
    answered.readRow_recordAt distinct at_ returned⟩

/-- Below a single primary row the first rows of an entity ascend by its identifier. -/
theorem Service.Answered.firstRows_ascending
    (answered : service.Answered query parts.plan rows gathering result)
    (distinct : (parts.plan.statement.columns.map (·.label)).Nodup)
    (at_ : parts.order.steps[i]? = some step)
    (declared : step.entity.declares step.entity.identifierField = true)
    (keyed : step.entity.Keyed (sourceAt
      (parts.plan.statement.sources service.database parts.plan.parameters) (i + 1)))
    {join : Join} (joinAt : parts.plan.statement.joins[i]? = some join)
    (direct : join.parent.source = 0)
    (single : ∀ row paired, Admitted service.database parts.primary query.filter row →
      Admitted service.database parts.primary query.filter paired → paired = row) :
    let sources := parts.plan.statement.sources service.database parts.plan.parameters
    (step.entity.firstRows sources (i + 1)
      (parts.plan.statement.resultRows service.database parts.plan.parameters)).Pairwise
        fun a b => (step.entity.identifierCell (sourceAt sources (i + 1)) (a.getD (i + 1) [])).order
          (step.entity.identifierCell (sourceAt sources (i + 1)) (b.getD (i + 1) [])) = .lt := by
  intro sources
  refine pairwise_newcomers fun front a middle b back split newA newB => ?_
  rw [List.nil_append] at newA newB
  -- Both rows are returned, and both have a row of the table at the source.
  have returnedA : a ∈ parts.plan.statement.resultRows service.database parts.plan.parameters := by
    rw [split]
    simp
  have returnedB : b ∈ parts.plan.statement.resultRows service.database parts.plan.parameters := by
    rw [split]
    simp
  have identifiedA := (EntitySchema.isNew_iff.mp newA).1
  have identifiedB := (EntitySchema.isNew_iff.mp newB).1
  have memberA := answered.mem_source distinct at_ declared returnedA identifiedA
  have memberB := answered.mem_source distinct at_ declared returnedB identifiedB
  have told := answered.distinction_of_new distinct at_ declared keyed returnedB identifiedB
  have joinedA := Statement.mem_joinedRows_of_mem_resultRows returnedA
  have joinedB := Statement.mem_joinedRows_of_mem_resultRows returnedB
  -- The two identifiers are compared, and only one outcome does not contradict the order of the rows.
  cases order : (step.entity.identifierCell (sourceAt sources (i + 1)) (a.getD (i + 1) [])).order
      (step.entity.identifierCell (sourceAt sources (i + 1)) (b.getD (i + 1) [])) with
  | lt => rfl
  | eq =>
    -- Identifiers in one place are those of one row, which came before.
    exfalso
    have same : a.getD (i + 1) [] = b.getD (i + 1) [] := by
      by_contra different
      have unequal := keyed.apart.forall memberA memberB different
      rw [EntitySchema.StoredApart, Cell.same, order] at unequal
      contradiction
    exact EntitySchema.not_isNew_of_same same (by simp) told newB
  | gt =>
    -- The row of the later one would have come even before the earlier one.
    exfalso
    have less : (step.entity.identifierCell (sourceAt sources (i + 1)) (b.getD (i + 1) [])).order
        (step.entity.identifierCell (sourceAt sources (i + 1)) (a.getD (i + 1) [])) = .lt := by
      rw [@Std.OrientedCmp.eq_swap _ Cell.order, order]
      rfl
    obtain ⟨earlier, came, same⟩ := Planning.exists_earlier split joinedB
      (parts.agreeAbove_of_single joinAt direct single joinedA joinedB) (parts.entity_at at_) less
    exact EntitySchema.not_isNew_of_same same (List.mem_append_left _ came) told newB

/--
Below a single primary row the list of an entity ascends strictly by its identifier.

The entity has to be joined to the primary one directly. Which other entities are joined, before it or
after it, how they are capped and where the joined rows are cut off make no difference.
-/
theorem Service.direct_list_ascending {plan : Plan} {signal : CancelSignal} {join : Join}
    (faultless : service.registry.Faultless)
    (planned : service.registry.plan query = .ok plan)
    (distinct : (plan.statement.columns.map (·.label)).Nodup)
    (single : ∀ row paired, Admitted service.database plan.primary query.filter row →
      Admitted service.database plan.primary query.filter paired → paired = row)
    (relatedAt : plan.related[i]? = some entity)
    (joinAt : plan.statement.joins[i]? = some join) (direct : join.parent.source = 0)
    (keyed : entity.Keyed (service.database.recordsOf entity))
    (executed : service.execute query signal = .ok result) (succeeded : result.success = true)
    (kept : plan.keeps entity.key = true) :
    let matched := join.source service.database plan.parameters
    ∃ (found : List Row) (records : List Record), (∀ row ∈ found, row ∈ matched.rows) ∧
      (found.Pairwise fun a b =>
        (entity.identifierCell matched a).order (entity.identifierCell matched b) = .lt) ∧
      List.Forall₂ (fun row record => entity.readRow matched row = .ok record) found records ∧
      result.data.get? entity.key =
        some (.list (records.map fun record => .map (plan.project entity.key record))) := by
  intro matched
  -- The parts of the plan, the answer and the step of the entity are found.
  obtain ⟨parts, rfl⟩ := Registry.plan_ok planned
  obtain ⟨_, rows, gathering, answered⟩ := Service.answered_of_execute executed succeeded
  cases planned.symm.trans answered.planned
  obtain ⟨step, at_, rfl⟩ : ∃ step, parts.order.steps[i]? = some step ∧ step.entity = entity := by
    simpa [Planning.plan] using relatedAt
  have declared :=
    parts.declares_of_faultless faultless (List.mem_of_getElem? (parts.entity_at at_))
  -- The source of the step is what the join matches, keyed as the table is.
  have source : sourceAt (parts.plan.statement.sources service.database parts.plan.parameters)
      (i + 1) = matched := Statement.sourceAt_succ joinAt
  have keyedSource := parts.keyed_source at_ keyed
  -- The branch of the step lists the records of the first rows, and these rows ascend.
  obtain ⟨branch, added, _, listed⟩ := answered.folded (List.mem_of_getElem? at_)
  have records := answered.records_eq distinct at_ added
  have ascending :=
    answered.firstRows_ascending distinct at_ declared keyedSource joinAt direct single
  -- Each listed record was read from the row of the joined row that brought it.
  have origin := answered.firstRow_origin distinct at_ declared
  simp only [source] at records ascending origin
  generalize step.entity.firstRows
    (parts.plan.statement.sources service.database parts.plan.parameters) (i + 1)
    (parts.plan.statement.resultRows service.database parts.plan.parameters) = first
    at records ascending origin
  refine ⟨first.map (·.getD (i + 1) []), branch.records, ?_, ?_, ?_, (listed kept).1⟩
  · intro row member
    obtain ⟨joined, inside, rfl⟩ := List.mem_map.mp member
    exact (origin joined inside).1
  · rw [List.pairwise_map]
    exact ascending
  · rw [records, List.forall₂_map_left_iff, List.forall₂_map_right_iff, List.forall₂_same]
    exact fun joined inside => (origin joined inside).2

/-- The query of the owner with all cats and dogs, cut off after three joined rows. -/
def shortHouseQuery : Query := houseQuery.limit (.int 3)

/-- The plan of that query. -/
def shortHousePlan : Plan :=
  (houseService.registry.plan shortHouseQuery).toOption.get (by decide +kernel)

/-- The join of the dogs, which comes behind that of the cats. -/
def dogJoin : Join := shortHousePlan.statement.joins.getLast (by decide +kernel)

/-- The dogs are listed in the order of their numbers, although cats are joined before them. -/
theorem Service.dogs_ascending :
    houseService.execute shortHouseQuery .quiet = .ok (houseResult [3, 4]) ∧
    shortHousePlan.related[1]? = some dogEntity ∧ dogJoin.parent.source = 0 ∧
    let matched := dogJoin.source houseDatabase shortHousePlan.parameters
    ∃ (found : List Row) (records : List Record), (∀ row ∈ found, row ∈ matched.rows) ∧
      (found.Pairwise fun a b => (dogEntity.identifierCell matched a).order
        (dogEntity.identifierCell matched b) = .lt) ∧
      List.Forall₂ (fun row record => dogEntity.readRow matched row = .ok record) found records ∧
      (houseResult [3, 4]).data.get? dogEntity.key =
        some (.list (records.map fun record =>
          .map (shortHousePlan.project dogEntity.key record))) := by
  have planned : houseService.registry.plan shortHouseQuery = .ok shortHousePlan := eq_ok_get _
  have executed : houseService.execute shortHouseQuery .quiet = .ok (houseResult [3, 4]) := by
    rw [Service.execute_eq_answerInOrder planned (by decide +kernel)]
    decide +kernel
  have related : shortHousePlan.related[1]? = some dogEntity := by decide +kernel
  have joined : shortHousePlan.statement.joins[1]? = some dogJoin := by decide +kernel
  have direct : dogJoin.parent.source = 0 := by decide +kernel
  -- There is one owner, so there is one at most whom the filter admits.
  have owners : (houseDatabase.recordsOf shortHousePlan.primary).rows = [[.integer 1]] := by
    decide +kernel
  have single : ∀ row paired,
      Admitted houseDatabase shortHousePlan.primary shortHouseQuery.filter row →
      Admitted houseDatabase shortHousePlan.primary shortHouseQuery.filter paired →
        paired = row := by
    rintro row paired ⟨first, _⟩ ⟨second, _⟩
    rw [owners] at first second
    rw [List.mem_singleton.mp first, List.mem_singleton.mp second]
  exact ⟨executed, related, direct, Service.direct_list_ascending
    (Registry.consistent_of_ofDocument houseService_read).faultless planned (by decide +kernel)
    single related joined direct (by decide +kernel) executed rfl
    (by decide +kernel)⟩

end Joinery
