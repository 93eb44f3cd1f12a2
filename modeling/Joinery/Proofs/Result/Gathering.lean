import Joinery.Proofs.Result.Records

/-! Gathering keeps one record of every identifier, and the primary record of the first row. -/

namespace Joinery

variable {entity : EntitySchema} {branch next : Branch} {row : FetchedRow} {rows : List FetchedRow}
  {plan : Plan} {gathering result : Gathering}

/-- How a record is told from others. -/
def EntitySchema.distinctionOf (entity : EntitySchema) (record : Record) : Distinction :=
  (entity.identifierOf record).distinction

/-- Whether a record has an identifier. -/
def EntitySchema.identifies (entity : EntitySchema) (record : Record) : Bool :=
  !(entity.identifierOf record).isNull

/-- A branch passes a row over when nothing in it has an identifier that is new. -/
def Branch.PassesOver (branch : Branch) (row : FetchedRow) : Prop :=
  branch.entity.identifies (branch.entity.extract row) = false ∨
    ∃ identity ∈ branch.seen, branch.entity.distinctionOf (branch.entity.extract row) = .by identity

/-- A branch takes in the record of a row, and remembers its identity when it has one. -/
def Branch.TakesIn (branch : Branch) (row : FetchedRow) (next : Branch) : Prop :=
  let record := branch.entity.extract row
  branch.entity.identifies record = true ∧ next.entity = branch.entity ∧
    next.records = branch.records ++ [record] ∧
    -- What equals nothing, not even itself, is never seen again.
    ((branch.entity.distinctionOf record = .unique ∧ next.seen = branch.seen) ∨
      ∃ identity, identity ∉ branch.seen ∧ branch.entity.distinctionOf record = .by identity ∧
        next.seen = branch.seen ++ [identity])

/-- A branch passes a row over or takes its record in. -/
theorem Branch.add_ok (added : branch.add row = .ok next) :
    (next = branch ∧ branch.PassesOver row) ∨ branch.TakesIn row next := by
  -- The identifier decides, as a blank record has none.
  simp only [add] at added
  split at added
  · rename_i missing
    cases added
    refine .inl ⟨rfl, .inl ?_⟩
    rcases Bool.or_eq_true_iff.mp missing with blank | null
    · simp [EntitySchema.identifies, EntitySchema.isNull_identifierOf_of_blank blank]
    · simp only [EntitySchema.identifies, EntitySchema.identifierOf, null, Bool.not_true]
  · rename_i present
    have identified : branch.entity.identifies (branch.entity.extract row) = true := by
      simp only [Bool.or_eq_true, not_or, Bool.not_eq_true] at present
      simp only [EntitySchema.identifies, EntitySchema.identifierOf, present.2, Bool.not_false]
    -- A record with an identifier is taken in, unless its identity was seen.
    simp only [Branch.include] at added
    split at added
    · contradiction
    · rename_i unique
      cases added
      exact .inr ⟨identified, rfl, rfl, .inl ⟨unique, rfl⟩⟩
    · rename_i identity distinction
      split at added
      · rename_i seen
        cases added
        exact .inl ⟨rfl, .inr ⟨identity, by simpa using seen, distinction⟩⟩
      · rename_i unseen
        cases added
        exact .inr ⟨identified, rfl, rfl, .inr ⟨identity, by simpa using unseen, distinction, rfl⟩⟩

/-- What a branch knows after some rows: their identifiers, each with one record. -/
structure Branch.Gathered (entity : EntitySchema) (rows : List FetchedRow) (branch : Branch) :
    Prop where
  /-- The branch is that of the entity. -/
  entity_eq : branch.entity = entity
  /-- Every record has an identifier and comes from a row. -/
  origin : ∀ record ∈ branch.records,
    entity.identifies record = true ∧ ∃ row ∈ rows, entity.extract row = record
  /-- The identity of every row that has an identifier was seen. -/
  represented : ∀ row ∈ rows, entity.identifies (entity.extract row) = true → ∀ identity,
    entity.distinctionOf (entity.extract row) = .by identity → identity ∈ branch.seen
  /-- Every identity that was seen is that of a record. -/
  held : ∀ identity ∈ branch.seen, ∃ record ∈ branch.records,
    entity.distinctionOf record = .by identity
  /-- The identity of every record was seen. -/
  known : ∀ record ∈ branch.records, ∀ identity,
    entity.distinctionOf record = .by identity → identity ∈ branch.seen
  /-- No two records have one identity. -/
  apart : branch.records.Pairwise fun a b => ∀ identity,
    entity.distinctionOf a = .by identity → entity.distinctionOf b ≠ .by identity

/-- A branch that starts knows nothing. -/
theorem Branch.gathered_start (entity : EntitySchema) :
    Gathered entity [] (Branch.start entity) := by
  -- There are neither rows nor records.
  constructor <;> simp [Branch.start]

/-- Passing a row over loses nothing: what it has was seen before. -/
theorem Branch.Gathered.passOver (gathered : branch.Gathered entity rows)
    (passed : branch.PassesOver row) : branch.Gathered entity (rows ++ [row]) := by
  -- Only the row is new, and its identity is among those that were seen.
  obtain ⟨rfl, origin, represented, held, known, apart⟩ := gathered
  refine ⟨rfl, fun record member => ?_, ?_, held, known, apart⟩
  · obtain ⟨identified, row, inside, same⟩ := origin record member
    exact ⟨identified, row, List.mem_append_left _ inside, same⟩
  · intro other inside identified identity distinction
    rcases List.mem_append.mp inside with before | now
    · exact represented other before identified identity distinction
    · cases List.mem_singleton.mp now
      rcases passed with missing | ⟨seen, member, found⟩
      · simp [missing] at identified
      · rw [found] at distinction
        cases distinction
        exact member

/-- The identity of a record that is taken in was not seen before, and is seen then. -/
theorem Branch.TakesIn.seen_new (taken : branch.TakesIn row next) {identity : Identity}
    (distinction : branch.entity.distinctionOf (branch.entity.extract row) = .by identity) :
    identity ∉ branch.seen ∧ identity ∈ next.seen := by
  -- A record that has an identity is not one that is told from all others.
  rcases taken.2.2.2 with ⟨unique, _⟩ | ⟨own, absent, found, same⟩
  · rw [unique] at distinction
    contradiction
  · rw [found] at distinction
    cases distinction
    exact ⟨absent, by simp [same]⟩

/-- What was seen before is seen after a record is taken in. -/
theorem Branch.TakesIn.seen_old (taken : branch.TakesIn row next) {identity : Identity}
    (member : identity ∈ branch.seen) : identity ∈ next.seen := by
  -- At most one identity goes to the end.
  rcases taken.2.2.2 with ⟨_, same⟩ | ⟨_, _, _, same⟩ <;> simp [same, member]

/-- What is seen after a record is taken in was seen before, or is the identity of the record. -/
theorem Branch.TakesIn.seen_cases (taken : branch.TakesIn row next) {identity : Identity}
    (member : identity ∈ next.seen) : identity ∈ branch.seen ∨
      branch.entity.distinctionOf (branch.entity.extract row) = .by identity := by
  -- Nothing else goes to the end.
  rcases taken.2.2.2 with ⟨_, same⟩ | ⟨own, _, found, same⟩
  · exact .inl (same ▸ member)
  · rw [same] at member
    rcases List.mem_append.mp member with before | now
    · exact .inl before
    · cases List.mem_singleton.mp now
      exact .inr found

/-- Taking a record in keeps the records apart: its identity is new. -/
theorem Branch.Gathered.takeIn (gathered : branch.Gathered entity rows)
    (taken : branch.TakesIn row next) : next.Gathered entity (rows ++ [row]) := by
  -- The record goes to the end, and so does its identity if it has one.
  obtain ⟨rfl, origin, represented, held, known, apart⟩ := gathered
  have records := taken.2.2.1
  -- The parts of the invariant are shown one by one; most ask what was there before and what came.
  refine ⟨taken.2.1, ?_, ?_, ?_, ?_, ?_⟩
  · intro record member
    rw [records] at member
    rcases List.mem_append.mp member with before | now
    · obtain ⟨identified, other, inside, same⟩ := origin record before
      exact ⟨identified, other, List.mem_append_left _ inside, same⟩
    · cases List.mem_singleton.mp now
      exact ⟨taken.1, row, by simp, rfl⟩
  · intro other inside identified identity distinction
    rcases List.mem_append.mp inside with before | now
    · exact taken.seen_old (represented other before identified identity distinction)
    · cases List.mem_singleton.mp now
      exact (taken.seen_new distinction).2
  · intro identity member
    rw [records]
    rcases taken.seen_cases member with before | own
    · obtain ⟨record, inside, distinction⟩ := held identity before
      exact ⟨record, List.mem_append_left _ inside, distinction⟩
    · exact ⟨_, by simp, own⟩
  · intro record member identity distinction
    rw [records] at member
    rcases List.mem_append.mp member with before | now
    · exact taken.seen_old (known record before identity distinction)
    · cases List.mem_singleton.mp now
      exact (taken.seen_new distinction).2
  -- The new record has none of the identities that came before it.
  · rw [records, List.pairwise_append]
    refine ⟨apart, List.pairwise_singleton _ _, ?_⟩
    intro record member last now identity distinction repeated
    cases List.mem_singleton.mp now
    exact (taken.seen_new repeated).1 (known record member identity distinction)

/-- What a branch knows grows by every row that is added. -/
theorem Branch.Gathered.add (gathered : branch.Gathered entity rows)
    (added : branch.add row = .ok next) : next.Gathered entity (rows ++ [row]) := by
  -- The row is passed over or taken in.
  rcases Branch.add_ok added with ⟨rfl, passed⟩ | taken
  · exact gathered.passOver passed
  · exact gathered.takeIn taken

/-- After all rows a branch knows all of them. -/
theorem Branch.Gathered.addRows {rest : List FetchedRow} (gathered : branch.Gathered entity rows)
    (added : rest.foldlM Branch.add branch = .ok next) : next.Gathered entity (rows ++ rest) := by
  -- Row after row moves over to those that are known.
  induction rest generalizing branch rows with
  | nil =>
    cases added
    simpa using gathered
  | cons first rest ih =>
    obtain ⟨middle, head, tail⟩ := foldlM_cons_eq_ok.mp added
    simpa using ih (gathered.add head) tail

/-- A row goes to every branch. -/
theorem addToBranches_ok {branches others : List Branch}
    (added : addToBranches row branches = (others, none)) :
    List.Forall₂ (fun branch next => branch.add row = .ok next) branches others := by
  -- The first branch that cannot take it would leave a fault.
  induction branches generalizing others with
  | nil =>
    cases added
    exact .nil
  | cons first rest ih =>
    simp only [addToBranches] at added
    split at added
    · simp at added
    · rename_i next head
      cases tail : addToBranches row rest with
      | mk more misuse =>
        simp only [tail, Prod.mk.injEq] at added
        obtain ⟨rfl, rfl⟩ := added
        exact .cons head (ih tail)

/-- Gathering keeps the first primary record, and leads every branch through all rows. -/
theorem Gathering.addAll_ok (gathered : gathering.addAll plan (rows.map .map) = .ok result) :
    result.primary = gathering.primary.or (rows.head?.map plan.primary.extract) ∧
      List.Forall₂ (fun branch next => rows.foldlM Branch.add branch = .ok next)
        gathering.branches result.branches := by
  -- The branches go through the rows side by side.
  induction rows generalizing gathering with
  | nil =>
    cases gathered
    refine ⟨by simp, ?_⟩
    rw [List.forall₂_same]
    exact fun branch _ => rfl
  | cons row rest ih =>
    simp only [List.map_cons, addAll, addValue, Gathering.add] at gathered
    cases added : addToBranches row gathering.branches with
    | mk branches misuse =>
      cases misuse with
      | some misuse => simp [added] at gathered
      | none =>
        simp only [added] at gathered
        obtain ⟨primary, aligned⟩ := ih gathered
        refine ⟨?_, (aligned_trans (addToBranches_ok added) aligned).imp ?_⟩
        · rw [primary]
          cases gathering.primary <;> simp
        · rintro branch next ⟨middle, head, tail⟩
          exact foldlM_cons_eq_ok.mpr ⟨middle, head, tail⟩

/-- From the start on, every related entity has a branch that knows all rows. -/
theorem Gathering.branches_ok
    (gathered : (Gathering.start plan).addAll plan (rows.map .map) = .ok result) :
    List.Forall₂ (fun entity (branch : Branch) => branch.Gathered entity rows)
      plan.related result.branches := by
  -- The branches start without records, one for each entity.
  have aligned := (addAll_ok gathered).2
  simp only [start, List.forall₂_map_left_iff] at aligned
  refine aligned.imp fun entity branch added => ?_
  simpa using (Branch.gathered_start entity).addRows added

/-- From the start on, the primary record is that of the first row. -/
theorem Gathering.primary_ok
    (gathered : (Gathering.start plan).addAll plan (rows.map .map) = .ok result) :
    result.primary = rows.head?.map plan.primary.extract := by
  -- There is none before the first row.
  simpa [start] using (addAll_ok gathered).1

/-- What a result says about an entity is found under the entity's name, if it is kept. -/
theorem Gathering.toResult_get?
    (distinct : (plan.primary.key :: gathering.branches.map (·.entity.key)).Nodup) {part : Section}
    (member : part ∈ gathering.primarySection plan :: gathering.branches.map (·.section plan))
    (kept : plan.keeps part.key = true) :
    (gathering.toResult plan).data.get? part.key = some part.content ∧
      (gathering.toResult plan).counts.get? part.key = some part.count := by
  -- The names of the sections are those of the entities, which are distinct.
  have inside : part ∈ gathering.sections plan := List.mem_filter.mpr ⟨member, kept⟩
  have primaryKey : (gathering.primarySection plan).key = plan.primary.key := by
    simp only [primarySection]
    split <;> rfl
  have keys : ((gathering.sections plan).map (·.key)).Nodup := by
    refine List.Nodup.sublist (List.filter_sublist.map _) ?_
    simpa [primaryKey, Branch.section, Function.comp_def] using distinct
  constructor
  · refine Entries.get?_of_mem ?_ (List.mem_map.mpr ⟨part, inside, rfl⟩)
    simpa [Entries.keys, toResult, Function.comp_def] using keys
  · refine Entries.get?_of_mem ?_ (List.mem_map.mpr ⟨part, inside, rfl⟩)
    simpa [Entries.keys, toResult, Function.comp_def] using keys

end Joinery
