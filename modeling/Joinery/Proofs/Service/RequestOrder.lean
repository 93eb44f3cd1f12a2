import Joinery.Proofs.Plan.Rechecking
import Joinery.Proofs.Service.Answering
import Joinery.Proofs.Service.FirstRows
import Joinery.Proofs.Service.OtherBranches

/-! The order in which related entities are requested plays no part in the records of an answer. -/

namespace Joinery

variable {registry : Registry} {query asked : Query} {entity : EntitySchema} {database : Database}
  {parts : Planning registry query} {moved : Planning registry asked} {source : Nat}

/-- Two results that tell of the same records, those of related entities up to order. -/
structure QueryResult.SameRecords (result changed : QueryResult) (plan : Plan) : Prop where
  /-- Either both are a success or none is. -/
  success : changed.success = result.success
  /-- They tell the same of the primary entity. -/
  primary : changed.data.get? plan.primary.key = result.data.get? plan.primary.key
  /-- They count the same for every name. -/
  counts : ∀ key, changed.counts.get? key = result.counts.get? key
  /-- They list the same records of every related entity. -/
  related : ∀ entity ∈ plan.related,
    (changed.listed entity.key).Perm (result.listed entity.key)

/-- A planning whose joined rows are all returned, from sources that tell their rows apart. -/
structure Planning.Whole (parts : Planning registry query) (database : Database) : Prop where
  /-- No label is hidden behind another one. -/
  distinct : (parts.plan.statement.columns.map (·.label)).Nodup
  /-- Every identifier is a field of its entity. -/
  declared : ∀ entity ∈ parts.entities, entity.declares entity.identifierField = true
  /-- Every source tells its rows apart by their identifiers. -/
  keyed : ∀ (source : Nat) (entity : EntitySchema), parts.entities[source]? = some entity →
    entity.Keyed (sourceAt (parts.plan.statement.sources database parts.plan.parameters) source)
  /-- The cap leaves all joined rows. -/
  complete : (parts.plan.statement.joinedRows database parts.plan.parameters).length ≤
    parts.plan.statement.cap

/-- The sources of a whole planning are apart. -/
theorem Planning.Whole.apart (whole : parts.Whole database) : parts.SourcesApart database :=
  fun source entity at_ => (whole.keyed source entity at_).apart

/-- The columns have the same labels in any order of the joins. -/
theorem Planning.Rearranged.labels_perm (rearranged : parts.Rearranged moved) :
    (moved.plan.statement.columns.map (·.label)).Perm
      (parts.plan.statement.columns.map (·.label)) := by
  -- Every entity brings the labels of its own fields.
  have labels := rearranged.entities_perm.flatMap_right EntitySchema.labels
  change ((plannedColumns _ _).map _).Perm ((plannedColumns _ _).map _)
  rw [plannedColumns_labels, plannedColumns_labels]
  exact labels

/-- Every source is the place of one. -/
theorem Planning.Rearranged.exists_placeOf (rearranged : parts.Rearranged moved)
    (bounded : source < moved.entities.length) :
    ∃ target < parts.entities.length, moved.placeOf parts target = source := by
  -- It is that of its own place in the other planning.
  have at_ := List.getElem?_eq_getElem bounded
  obtain ⟨inside, _⟩ := List.getElem?_eq_some_iff.mp (rearranged.entity_at at_)
  exact ⟨_, inside, rearranged.placeOf_placeOf at_⟩

/-- A planning is whole in any order of its joins. -/
theorem Planning.Whole.rearranged (whole : parts.Whole database)
    (rearranged : parts.Rearranged moved) : moved.Whole database := by
  -- At its place a source has the same rows, which are told apart there.
  have keyed : ∀ (source : Nat) (entity : EntitySchema), moved.entities[source]? = some entity →
      entity.Keyed
        (sourceAt (moved.plan.statement.sources database moved.plan.parameters) source) := by
    intro source entity at_
    rw [rearranged.sourceAt_eq database at_]
    exact whole.keyed _ entity (rearranged.entity_at at_)
  refine ⟨rearranged.labels_perm.nodup_iff.mpr whole.distinct, ?_, keyed, ?_⟩
  · exact fun entity member => whole.declared entity (rearranged.entities_perm.mem_iff.mp member)
  · -- Its joined rows are no more than those of the first planning, in which each has its own.
    have distinct : (moved.plan.statement.joinedRows database moved.plan.parameters).Nodup :=
      nodup_joinedRows fun source entity at_ => (keyed source entity at_).apart
    have onto : ∀ source < moved.plan.statement.joins.length + 1,
        ∃ target < moved.plan.statement.joins.length + 1, moved.placeOf parts target = source := by
      rw [← moved.entities_length]
      intro source inside
      have found := rearranged.exists_placeOf inside
      rwa [← rearranged.entities_perm.length_eq] at found
    have bounded := (rearranged.symm.follows database).length_joinedRows_le moved.parentsBefore
      parts.parentsBefore onto distinct
    have cap : moved.plan.statement.cap = parts.plan.statement.cap := rearranged.cap
    have complete := whole.complete
    omega

/-- Whether a row is read as a record with the identity of a given one. -/
def EntitySchema.HasIdentityOf (entity : EntitySchema) (relation : Relation) (record : Record)
    (row : Row) : Prop :=
  entity.isSame record ((entity.readRow relation row).toOption.getD []) = true

variable {joined other : JoinedRow} {record : Record}

/-- Of a joined row it is the record at the source that has the identity. -/
theorem EntitySchema.hasIdentityOf_iff {sources : List Relation} :
    entity.HasIdentityOf (sourceAt sources source) record (joined.getD source []) ↔
      entity.isSame record (entity.recordAt sources source joined) = true :=
  .rfl

/-- Among the joined rows with a record of some identity the first one is one of the first rows. -/
theorem Planning.Whole.exists_first (whole : parts.Whole database)
    (member : joined ∈ parts.plan.statement.joinedRows database parts.plan.parameters)
    (same : entity.isSame record (entity.recordAt
      (parts.plan.statement.sources database parts.plan.parameters) source joined) = true) :
    let sources := parts.plan.statement.sources database parts.plan.parameters
    ∃ first ∈ entity.firstRows sources source
        (parts.plan.statement.resultRows database parts.plan.parameters),
      parts.First database source (entity.HasIdentityOf (sourceAt sources source) record) first := by
  intro sources
  have returned := Statement.mem_resultRows_of_complete whole.complete member
  -- Of the returned rows with such a record the first one is taken.
  obtain ⟨first, found⟩ : ∃ first, (parts.plan.statement.resultRows database
      parts.plan.parameters).find? (fun row =>
        entity.isSame record (entity.recordAt sources source row)) = some first := by
    rw [← Option.isSome_iff_exists, List.find?_isSome]
    exact ⟨joined, returned, same⟩
  obtain ⟨chosen, front, back, split, before⟩ := List.find?_eq_some_iff_append.mp found
  obtain ⟨identified, identity, own, ownToo⟩ := EntitySchema.isSame_iff.mp chosen
  have inside : first ∈ parts.plan.statement.resultRows database parts.plan.parameters := by
    rw [split]
    simp
  refine ⟨first, ?_, Statement.mem_joinedRows_of_mem_resultRows inside, chosen, ?_⟩
  · -- What came before it has other identities, so it is new.
    rw [EntitySchema.firstRows, split]
    refine mem_newcomers_of_isNew (EntitySchema.isNew_iff.mpr ⟨identified, fun earlier among => ?_⟩)
    obtain ⟨row, earlierRow, rfl⟩ := List.mem_map.mp among
    rw [Bool.eq_false_iff]
    intro alike
    obtain ⟨present, again, fromFirst, fromRow⟩ := EntitySchema.isSame_iff.mp alike
    cases ownToo.symm.trans fromFirst
    have excluded := before row earlierRow
    rw [EntitySchema.isSame_iff.mpr ⟨present, identity, own, fromRow⟩] at excluded
    contradiction
  · intro row joinedRow alike smaller
    have excluded := before row (Statement.mem_front_of_smaller split joinedRow smaller)
    rw [EntitySchema.hasIdentityOf_iff.mp alike] at excluded
    contradiction

variable {service : Service} {query asked : Query} {parts : Planning service.registry query}
  {moved : Planning service.registry asked} {rows more : List FetchedRow}
  {gathering gatheringToo : Gathering} {result changed : QueryResult} {branch branchToo : Branch}
  {step : JoinStep} {i : Nat}

/-- A returned row with a new record is the first joined row with a record of its identity. -/
theorem Service.Answered.first_of_firstRows
    (answered : service.Answered query parts.plan rows gathering result)
    (whole : parts.Whole service.database) (at_ : parts.order.steps[i]? = some step)
    (member : joined ∈ step.entity.firstRows
      (parts.plan.statement.sources service.database parts.plan.parameters) (i + 1)
      (parts.plan.statement.resultRows service.database parts.plan.parameters)) :
    let sources := parts.plan.statement.sources service.database parts.plan.parameters
    parts.First service.database (i + 1) (step.entity.HasIdentityOf (sourceAt sources (i + 1))
      (step.entity.recordAt sources (i + 1) joined)) joined := by
  intro sources
  obtain ⟨front, back, split, new⟩ := mem_newcomers member
  have returned : joined ∈
      parts.plan.statement.resultRows service.database parts.plan.parameters := by
    rw [split]
    simp
  obtain ⟨identified, different⟩ := EntitySchema.isNew_iff.mp new
  have own := parts.entity_at at_
  obtain ⟨identity, told⟩ := answered.distinction_of_new whole.distinct at_
    (whole.declared _ (List.mem_of_getElem? own)) (whole.keyed _ _ own) returned identified
  refine ⟨Statement.mem_joinedRows_of_mem_resultRows returned,
    EntitySchema.isSame_iff.mpr ⟨identified, identity, told, told⟩, fun row among alike smaller => ?_⟩
  -- What is sorted before it is returned before it, with another identity.
  have earlier := Statement.mem_front_of_smaller split among smaller
  have apart := different _ (List.mem_map_of_mem (List.mem_append_right [] earlier))
  rw [EntitySchema.hasIdentityOf_iff.mp alike] at apart
  contradiction

/-- What a branch lists is listed in any order of the joins. -/
theorem Service.Answered.records_subset
    (answered : service.Answered query parts.plan rows gathering result)
    (answeredToo : service.Answered asked moved.plan more gatheringToo changed)
    (rearranged : parts.Rearranged moved) (whole : parts.Whole service.database)
    (member : step ∈ parts.order.steps)
    (added : rows.foldlM Branch.add (Branch.start step.entity) = .ok branch)
    (addedToo : more.foldlM Branch.add (Branch.start step.entity) = .ok branchToo) :
    branch.records ⊆ branchToo.records := by
  obtain ⟨i, at_⟩ := List.mem_iff_getElem?.mp member
  obtain ⟨j, atToo⟩ := List.mem_iff_getElem?.mp (rearranged.steps.symm.mem_iff.mp member)
  have wholeToo := whole.rearranged rearranged
  have records := answered.records_eq whole.distinct at_ added
  have recordsToo := answeredToo.records_eq wholeToo.distinct atToo addedToo
  simp only at records recordsToo
  -- The entity is one source in both orders, with the same rows to match.
  have own := parts.entity_at at_
  have place : moved.placeOf parts (i + 1) = j + 1 :=
    moved.entities_unique (rearranged.symm.entity_at own) (moved.entity_at atToo) rfl
  have source := rearranged.symm.sourceAt_eq service.database own
  rw [place] at source
  intro record listed
  rw [records] at listed
  obtain ⟨joined, among, rfl⟩ := List.mem_map.mp listed
  have first := answered.first_of_firstRows whole at_ among
  -- Rearranged, the joined row has the same record, so there is a first row with its identity.
  have there := rearranged.mem_joinedRows first.member
  have row := rearranged.getD_rearrange_placeOf first.member own
  rw [place] at row
  have alike := first.chosen
  rw [source, ← row] at alike
  obtain ⟨other, amongToo, firstToo⟩ :=
    wholeToo.exists_first there (EntitySchema.hasIdentityOf_iff.mp alike)
  -- Both orders have the same row for it.
  have same := rearranged.first_eq whole.apart first (by rwa [place, source]) own
  rw [place] at same
  rw [recordsToo]
  exact List.mem_map.mpr ⟨other, amongToo, EntitySchema.recordAt_ext source.symm same.symm⟩

/-- No record is listed twice. -/
theorem Service.Answered.records_nodup
    (answered : service.Answered query parts.plan rows gathering result)
    (whole : parts.Whole service.database) (member : step ∈ parts.order.steps)
    (added : rows.foldlM Branch.add (Branch.start step.entity) = .ok branch) :
    branch.records.Nodup := by
  obtain ⟨i, at_⟩ := List.mem_iff_getElem?.mp member
  have records := answered.records_eq whole.distinct at_ added
  simp only at records
  have gathered := (Branch.gathered_start step.entity).addRows added
  refine gathered.apart.imp_of_mem fun {record other} inside _ different same => ?_
  -- Every record has an identity, which no other one has.
  rw [records] at inside
  obtain ⟨joined, among, rfl⟩ := List.mem_map.mp inside
  obtain ⟨_, identity, told, _⟩ :=
    EntitySchema.isSame_iff.mp (answered.first_of_firstRows whole at_ among).chosen
  exact different identity told (same ▸ told)

/-- Branches list the same records in any order of the joins. -/
theorem Service.Answered.records_perm
    (answered : service.Answered query parts.plan rows gathering result)
    (answeredToo : service.Answered asked moved.plan more gatheringToo changed)
    (rearranged : parts.Rearranged moved) (whole : parts.Whole service.database)
    (member : step ∈ parts.order.steps)
    (added : rows.foldlM Branch.add (Branch.start step.entity) = .ok branch)
    (addedToo : more.foldlM Branch.add (Branch.start step.entity) = .ok branchToo) :
    branchToo.records.Perm branch.records := by
  have memberToo := rearranged.steps.symm.mem_iff.mp member
  have wholeToo := whole.rearranged rearranged
  -- Neither list has a record twice, so it is enough that each of them contains the other.
  refine (List.perm_ext_iff_of_nodup (answeredToo.records_nodup wholeToo memberToo addedToo)
    (answered.records_nodup whole member added)).mpr fun record => ⟨?_, ?_⟩
  · intro listed
    exact answeredToo.records_subset answered rearranged.symm wholeToo memberToo addedToo added listed
  · intro listed
    exact answered.records_subset answeredToo rearranged whole member added addedToo listed

/-- The primary record is that of the first returned row. -/
theorem Service.Answered.primary_eq
    (answered : service.Answered query parts.plan rows gathering result)
    (distinct : (parts.plan.statement.columns.map (·.label)).Nodup) :
    gathering.primary = (parts.plan.statement.resultRows service.database
      parts.plan.parameters).head?.map (parts.primary.recordAt
        (parts.plan.statement.sources service.database parts.plan.parameters) 0) := by
  -- Row by row the fetched record is the one at the primary source.
  rw [Gathering.primary_ok answered.gathered, ← List.head?_map, ← List.head?_map]
  have own : parts.entities[0]? = some parts.primary := rfl
  exact congrArg _ (parts.map_extract_eq distinct own answered.fetched)

/-- The first returned row is the first of all joined rows. -/
theorem Planning.first_of_head {registry : Registry} {parts : Planning registry query}
    {back : List JoinedRow}
    (returned : parts.plan.statement.resultRows database parts.plan.parameters = joined :: back) :
    parts.First database 0 (fun _ => True) joined := by
  have inside : joined ∈ parts.plan.statement.resultRows database parts.plan.parameters :=
    returned ▸ List.mem_cons_self
  refine ⟨Statement.mem_joinedRows_of_mem_resultRows inside, trivial, fun row among _ smaller => ?_⟩
  -- Nothing is returned in front of it.
  have earlier : row ∈ ([] : List JoinedRow) :=
    Statement.mem_front_of_smaller returned among smaller
  contradiction

/-- A primary record in one order of the joins is that of the other. -/
theorem Service.Answered.primary_of_rearranged
    (answered : service.Answered query parts.plan rows gathering result)
    (answeredToo : service.Answered asked moved.plan more gatheringToo changed)
    (rearranged : parts.Rearranged moved) (whole : parts.Whole service.database)
    (found : gathering.primary = some record) : gatheringToo.primary = some record := by
  have wholeToo := whole.rearranged rearranged
  rw [answered.primary_eq whole.distinct] at found
  obtain ⟨joined, head, rfl⟩ := Option.map_eq_some_iff.mp found
  obtain ⟨back, returned⟩ := List.head?_eq_some_iff.mp head
  have first := Planning.first_of_head returned
  -- Rearranged, the joined row is returned in the other order, which then has a first row as well.
  have there := Statement.mem_resultRows_of_complete wholeToo.complete
    (rearranged.mem_joinedRows first.member)
  rw [answeredToo.primary_eq wholeToo.distinct]
  cases returnedToo : moved.plan.statement.resultRows service.database moved.plan.parameters with
  | nil =>
    rw [returnedToo] at there
    contradiction
  | cons other rest =>
    have own : parts.entities[0]? = some parts.primary := rfl
    have place := rearranged.symm.placeOf_zero
    have source := rearranged.symm.sourceAt_eq service.database own
    have firstToo := Planning.first_of_head returnedToo
    have same := rearranged.first_eq whole.apart first (by rwa [place]) own
    rw [place] at source same
    rw [List.head?_cons, Option.map_some, rearranged.primary,
      EntitySchema.recordAt_ext source.symm same.symm]

/-- The primary record is the same in any order of the joins. -/
theorem Service.Answered.primary_rearranged
    (answered : service.Answered query parts.plan rows gathering result)
    (answeredToo : service.Answered asked moved.plan more gatheringToo changed)
    (rearranged : parts.Rearranged moved) (whole : parts.Whole service.database) :
    gatheringToo.primary = gathering.primary := by
  -- Each of the two records is the other one.
  refine Option.ext fun record => ⟨fun found => ?_, fun found => ?_⟩
  · exact answeredToo.primary_of_rearranged answered rearranged.symm
      (whole.rearranged rearranged) found
  · exact answered.primary_of_rearranged answeredToo rearranged whole found

/-- Where a query is answered in one order of its joins, it is answered in every order. -/
theorem Service.Answered.exists_rearranged
    (answered : service.Answered query parts.plan rows gathering result)
    (rearranged : parts.Rearranged moved) (whole : parts.Whole service.database) :
    ∃ more gatheringToo changed,
      service.Answered asked moved.plan more gatheringToo changed := by
  -- A joined row consists of the rows of one in the first order, all of which could be read.
  have built : ∀ joined ∈ moved.plan.statement.resultRows service.database moved.plan.parameters,
      ∃ fetched, fetchRow moved.plan.statement.columns moved.plan.resultTypes
        (moved.plan.statement.sources service.database moved.plan.parameters) joined =
          .ok fetched := by
    intro joined returned
    have member := Statement.mem_joinedRows_of_mem_resultRows returned
    have back := Statement.mem_resultRows_of_complete whole.complete
      (rearranged.symm.mem_joinedRows member)
    obtain ⟨fetched, _, read⟩ := exists_right_of_aligned answered.fetched back
    refine moved.exists_fetchRow (whole.rearranged rearranged).distinct fun source entity at_ => ?_
    have found := parts.readRow_at whole.distinct read (rearranged.entity_at at_)
    rw [← rearranged.sourceAt_eq _ at_, rearranged.symm.getD_rearrange_placeOf member at_] at found
    exact ⟨_, found⟩
  obtain ⟨more, fetched⟩ := exists_aligned built
  have telling : ∀ row ∈ more, Entries.Telling row := by
    intro row member
    obtain ⟨_, _, read⟩ := exists_right_of_aligned fetched member
    exact fetchRow_telling read
  obtain ⟨gatheringToo, gathered⟩ := Gathering.exists_addAll telling (Gathering.start moved.plan)
  exact ⟨more, gatheringToo, _, moved.planned, rearranged.check answered.checked, fetched.flip,
    gathered, rfl⟩

/-- Plannings of the same joins keep the records of the same entities. -/
theorem Planning.Rearranged.keptKeys_perm (rearranged : parts.Rearranged moved) :
    moved.plan.keptKeys.Perm parts.plan.keptKeys := by
  -- The same names are kept, among the same entities.
  have keeps := parts.keeps_congr moved rearranged.selectedEntities
  rw [Plan.keptKeys, Plan.keptKeys, keeps]
  exact (rearranged.entities_perm.map (·.key)).filter _

/-- The answers to a query in two orders of its joins tell the same of the primary entity. -/
theorem Service.Answered.get?_primary_rearranged
    (answered : service.Answered query parts.plan rows gathering result)
    (answeredToo : service.Answered asked moved.plan more gatheringToo changed)
    (rearranged : parts.Rearranged moved) (whole : parts.Whole service.database)
    (kept : parts.plan.keeps parts.plan.primary.key = true) :
    changed.data.get? parts.plan.primary.key = result.data.get? parts.plan.primary.key ∧
      changed.counts.get? parts.plan.primary.key = result.counts.get? parts.plan.primary.key := by
  have keeps := parts.keeps_congr moved rearranged.selectedEntities
  have project := parts.project_congr moved rearranged.selectedFields
  have primary : moved.plan.primary = parts.plan.primary := rearranged.primary
  -- Both sections are made of one record, with the same fields of it.
  have told : gatheringToo.primarySection moved.plan = gathering.primarySection parts.plan := by
    rw [Gathering.primarySection, Gathering.primarySection,
      answered.primary_rearranged answeredToo rearranged whole, primary, project]
  have own := answered.get?_primary kept
  have ownToo := answeredToo.get?_primary (by rw [keeps, primary]; exact kept)
  rw [told, primary] at ownToo
  exact ⟨ownToo.1.trans own.1.symm, ownToo.2.trans own.2.symm⟩

/-- They tell the same of every related entity, up to the order of its records. -/
theorem Service.Answered.listed_rearranged
    (answered : service.Answered query parts.plan rows gathering result)
    (answeredToo : service.Answered asked moved.plan more gatheringToo changed)
    (rearranged : parts.Rearranged moved) (whole : parts.Whole service.database)
    (member : step ∈ parts.order.steps) (kept : parts.plan.keeps step.entity.key = true) :
    (changed.listed step.entity.key).Perm (result.listed step.entity.key) ∧
      changed.counts.get? step.entity.key = result.counts.get? step.entity.key := by
  have keeps := parts.keeps_congr moved rearranged.selectedEntities
  have project := parts.project_congr moved rearranged.selectedFields
  -- Both lists are made of the records of a branch, and the two branches have the same records.
  obtain ⟨branch, added, _, listed⟩ := answered.folded member
  obtain ⟨branchToo, addedToo, _, listedToo⟩ :=
    answeredToo.folded (rearranged.steps.symm.mem_iff.mp member)
  have records := answered.records_perm answeredToo rearranged whole member added addedToo
  obtain ⟨data, counts⟩ := listed kept
  obtain ⟨dataToo, countsToo⟩ := listedToo (keeps ▸ kept)
  rw [counts, countsToo, records.length_eq, QueryResult.listed, QueryResult.listed, data, dataToo,
    project]
  exact ⟨records.map _, rfl⟩

/-- The answers to a query in two orders of its joins tell of the same records. -/
theorem Service.Answered.sameRecords
    (answered : service.Answered query parts.plan rows gathering result)
    (answeredToo : service.Answered asked moved.plan more gatheringToo changed)
    (rearranged : parts.Rearranged moved) (whole : parts.Whole service.database) :
    result.SameRecords changed parts.plan := by
  have keeps := parts.keeps_congr moved rearranged.selectedEntities
  refine ⟨?_, ?_, fun key => ?_, fun entity member => ?_⟩
  · rw [answered.result_eq, answeredToo.result_eq]
    rfl
  · cases kept : parts.plan.keeps parts.plan.primary.key with
    | false =>
      rw [answered.get?_of_dropped kept, answeredToo.get?_of_dropped (by rw [keeps, kept])]
    | true => exact (answered.get?_primary_rearranged answeredToo rearranged whole kept).1
  · -- A name is that of the primary entity, of a related one, or of none that is kept.
    by_cases inside : key ∈ parts.plan.keptKeys
    · obtain ⟨named, kept⟩ := List.mem_filter.mp inside
      obtain ⟨entity, among, rfl⟩ := List.mem_map.mp named
      rcases List.mem_cons.mp among with rfl | joined
      · exact (answered.get?_primary_rearranged answeredToo rearranged whole kept).2
      · obtain ⟨step, member, rfl⟩ := List.mem_map.mp joined
        exact (answered.listed_rearranged answeredToo rearranged whole member kept).2
    · rw [(answered.get?_of_absent inside).2, (answeredToo.get?_of_absent
        (mt rearranged.keptKeys_perm.mem_iff.mp inside)).2]
  · obtain ⟨step, inside, rfl⟩ := List.mem_map.mp member
    cases kept : parts.plan.keeps step.entity.key with
    | false =>
      rw [answered.listed_eq_nil kept, answeredToo.listed_eq_nil (by rw [keeps, kept])]
    | true => exact (answered.listed_rearranged answeredToo rearranged whole inside kept).1

/-- A query that succeeds in one order of its joins succeeds in every order, with the same records. -/
theorem Service.exists_sameRecords {signal : CancelSignal} (rearranged : parts.Rearranged moved)
    (whole : parts.Whole service.database) (executed : service.execute query signal = .ok result)
    (succeeded : result.success = true) :
    ∃ changed, service.execute asked signal = .ok changed ∧
      result.SameRecords changed parts.plan := by
  -- A success was not cancelled, so there are rows that the other plan has too.
  obtain rfl := quiet_of_success executed succeeded
  obtain ⟨_, rows, gathering, answered⟩ := answered_of_execute executed succeeded
  cases parts.planned.symm.trans answered.planned
  obtain ⟨more, gatheringToo, changed, answeredToo⟩ := answered.exists_rearranged rearranged whole
  exact ⟨changed, answeredToo.executed, answered.sameRecords answeredToo rearranged whole⟩

/--
Related entities may be requested in any order.

When a query is planned without a warning and its cap leaves all joined rows, the same requests in
another order have the same primary record, the same counts and the same records of every related
entity, capped or not. This holds as long as every row of the joined tables has an identifier of its own.
-/
theorem Service.execute_requests_permuted {plan : Plan} {asked : List RelatedRequest}
    (faultless : service.registry.Faultless)
    (planned : service.registry.plan query = .ok plan) (quiet : plan.warnings = [])
    (distinct : (plan.statement.columns.map (·.label)).Nodup)
    (keyed : ∀ entity ∈ plan.primary :: plan.related,
      entity.Keyed (service.database.recordsOf entity))
    (complete : (plan.statement.joinedRows service.database plan.parameters).length ≤
      plan.statement.cap)
    (permuted : asked.Perm query.related) (signal : CancelSignal) :
    ∃ result changed, service.execute query signal = .ok result ∧
      service.execute (query.relate asked) signal = .ok changed ∧
      result.SameRecords changed plan := by
  obtain ⟨parts, rfl⟩ := Registry.plan_ok planned
  have reached : parts.order.unreachable = [] := by
    have none : parts.order.warnings parts.primary = [] := quiet
    rw [JoinOrder.warnings] at none
    split at none
    · exact List.isEmpty_iff.mp ‹_›
    · contradiction
  obtain ⟨moved, _, rearranged⟩ := parts.exists_rearranged reached permuted
  have whole : parts.Whole service.database :=
    ⟨distinct, fun _ member => parts.declares_of_faultless faultless member,
      fun _ _ at_ => parts.keyed_at keyed at_, complete⟩
  -- Both queries have a result, whatever the signal says.
  obtain ⟨result, carried⟩ := service.exists_carryOut parts.plan signal
  obtain ⟨changed, carriedToo⟩ := service.exists_carryOut moved.plan signal
  have executed : service.execute query signal = .ok result := by
    simp only [execute, parts.planned, carried]
  have repeated : service.execute (query.relate asked) signal = .ok changed := by
    simp only [execute, moved.planned, carriedToo]
  refine ⟨result, changed, executed, repeated, ?_⟩
  cases succeeded : result.success with
  | true =>
    obtain ⟨other, again, same⟩ := exists_sameRecords rearranged whole executed succeeded
    cases repeated.symm.trans again
    exact same
  | false =>
    -- A success in the other order would be one in this order.
    have failed : changed.success = false := by
      rw [Bool.eq_false_iff]
      intro success
      obtain ⟨other, again, same⟩ :=
        exists_sameRecords rearranged.symm (whole.rearranged rearranged) repeated success
      cases executed.symm.trans again
      rw [same.success, success] at succeeded
      contradiction
    -- Neither of the failed results tells of any record.
    have nothing := failed_of_no_success executed succeeded
    have nothingToo := failed_of_no_success repeated failed
    refine ⟨failed.trans succeeded.symm, ?_, fun key => ?_, fun entity _ => ?_⟩
    · rw [nothing.no_data, nothingToo.no_data]
    · rw [nothing.no_counts, nothingToo.no_counts]
    · rw [QueryResult.listed, QueryResult.listed, nothing.no_data, nothingToo.no_data]

/-- The document of owners with cats and dogs, and of the toys of cats. -/
def toyDocument : Value :=
  .map [("entities", .map [
    ("Owner", entityDocument "owner" [("id", "integer")] ["id"] .null
      [("Cat", .map [("foreignKey", .text "id"), ("localKey", .text "owner")]),
        ("Dog", .map [("foreignKey", .text "id"), ("localKey", .text "owner")])]),
    ("Cat", entityDocument "cat" [("id", "integer"), ("owner", "integer")] [] .null
      [("Toy", .map [("foreignKey", .text "id"), ("localKey", .text "cat")])]),
    ("Dog", entityDocument "dog" [("id", "integer"), ("owner", "integer")] [] .null []),
    ("Toy", entityDocument "toy" [("id", "integer"), ("cat", "integer")] [] .null [])])]

/-- One owner with two cats and two dogs; each cat has a toy. -/
def toyDatabase : Database :=
  houseDatabase.add "toy" ⟨[⟨"id", .numeric⟩, ⟨"cat", .numeric⟩],
    [[.integer 5, .integer 2], [.integer 6, .integer 1]], by decide⟩ (by decide)

/-- The service of owners with cats, dogs and toys. -/
def toyService : Service :=
  ⟨(Registry.ofDocument toyDocument).toOption.get (by decide +kernel), toyDatabase, 900⟩

/-- The query of the owner with all cats, all dogs and the toys of the cats. -/
def toyQuery : Query where
  primary := .text "Owner"
  filter := some ⟨[("id", .int 1)], none⟩
  related := [⟨.text "Cat", none, .null⟩, ⟨.text "Dog", none, .null⟩, ⟨.text "Toy", none, .text "Cat"⟩]
  selectedEntities := []
  selectedFields := []
  maxRows := .null

/-- The plan of that query. -/
def toyPlan : Plan := (toyService.registry.plan toyQuery).toOption.get (by decide +kernel)

/-- The answer to it: the toy of the first cat comes first. -/
def toyResult : QueryResult where
  success := true
  error := none
  data := [("owner", .map [("id", .int 1)]),
    ("cat", .list [.map [("id", .int 1), ("owner", .int 1)], .map [("id", .int 2), ("owner", .int 1)]]),
    ("dog", .list [.map [("id", .int 3), ("owner", .int 1)], .map [("id", .int 4), ("owner", .int 1)]]),
    ("toy", .list [.map [("id", .int 6), ("cat", .int 1)], .map [("id", .int 5), ("cat", .int 2)]])]
  counts := [("owner", 1), ("cat", 2), ("dog", 2), ("toy", 2)]
  warnings := []

/-- Toys can be asked for before the cats that they hang from, and dogs before both. -/
theorem Service.toys_requested_first :
    toyPlan.warnings = [] ∧
    (toyPlan.statement.joinedRows toyDatabase toyPlan.parameters).length ≤ toyPlan.statement.cap ∧
    toyQuery.related.reverse.Perm toyQuery.related ∧
    toyService.execute toyQuery .quiet = .ok toyResult ∧
    ∃ changed,
      toyService.execute (toyQuery.relate toyQuery.related.reverse) .quiet = .ok changed ∧
        toyResult.SameRecords changed toyPlan := by
  -- The conditions of the general theorem are evaluated on the small database.
  have read : Registry.ofDocument toyDocument = .ok toyService.registry := eq_ok_get (by decide +kernel)
  have planned : toyService.registry.plan toyQuery = .ok toyPlan := eq_ok_get _
  have quiet : toyPlan.warnings = [] := by decide +kernel
  have answers : toyPlan.AnswersInOrder toyDatabase toyResult := by decide +kernel
  have executed := answers.executed planned
  have permuted := List.reverse_perm toyQuery.related
  obtain ⟨result, changed, first, second, same⟩ := Service.execute_requests_permuted
    (Registry.consistent_of_ofDocument read).faultless planned quiet (by decide +kernel)
    (by decide +kernel) answers.complete permuted .quiet
  -- The result that the general theorem speaks of is the known one.
  cases executed.symm.trans first
  exact ⟨quiet, answers.complete, permuted, executed, changed, second, same⟩

end Joinery
