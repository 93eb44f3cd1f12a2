import Joinery.Proofs.Result.Gathering

/-! A branch lists the records that bring a new identifier, in the order of the rows that bring them. -/

namespace Joinery

variable {α β : Type}

/-- The items of a list that are new after some others and the items before them. -/
def newcomers (isNew : List α → α → Bool) : List α → List α → List α
  | _, [] => []
  | before, item :: rest =>
    let others := newcomers isNew (before ++ [item]) rest
    if isNew before item then item :: others else others

/-- An item that is new stands at some place where it is new. -/
theorem mem_newcomers {isNew : List α → α → Bool} {before items : List α} {item : α}
    (member : item ∈ newcomers isNew before items) :
    ∃ front back, items = front ++ item :: back ∧ isNew (before ++ front) item = true := by
  -- It is the first item, or it is new among the others, before which the first one stands.
  induction items generalizing before with
  | nil => contradiction
  | cons first rest ih =>
    have later (inside : item ∈ newcomers isNew (before ++ [first]) rest) :
        ∃ front back, first :: rest = front ++ item :: back ∧
          isNew (before ++ front) item = true := by
      obtain ⟨front, back, rfl, found⟩ := ih inside
      exact ⟨first :: front, back, rfl, by simpa using found⟩
    rw [newcomers] at member
    split at member
    · rename_i found
      rcases List.mem_cons.mp member with rfl | inside
      · exact ⟨[], rest, rfl, by simpa using found⟩
      · exact later inside
    · exact later member

/-- What stands at a place where it is new is among the new items. -/
theorem mem_newcomers_of_isNew {isNew : List α → α → Bool} {before front back : List α} {item : α}
    (new : isNew (before ++ front) item = true) :
    item ∈ newcomers isNew before (front ++ item :: back) := by
  -- The items in front of it are gone through first.
  induction front generalizing before with
  | nil =>
    rw [List.append_nil] at new
    rw [List.nil_append, newcomers, if_pos new]
    exact List.mem_cons_self
  | cons first rest ih =>
    have later : item ∈ newcomers isNew (before ++ [first]) (rest ++ item :: back) :=
      ih (by simpa using new)
    rw [List.cons_append, newcomers]
    split
    · exact List.mem_cons_of_mem _ later
    · exact later

/-- What holds between any two items that are new, one after the other, holds all along the new ones. -/
theorem pairwise_newcomers {isNew : List α → α → Bool} {related : α → α → Prop}
    {before items : List α}
    (ordered : ∀ front a middle b back, items = front ++ a :: (middle ++ b :: back) →
      isNew (before ++ front) a = true → isNew (before ++ (front ++ a :: middle)) b = true →
      related a b) :
    (newcomers isNew before items).Pairwise related := by
  induction items generalizing before with
  | nil => exact .nil
  | cons first rest ih =>
    have others : (newcomers isNew (before ++ [first]) rest).Pairwise related := by
      refine ih fun front a middle b back same newA newB => ?_
      refine ordered (first :: front) a middle b back (by rw [same]; rfl) ?_ ?_
      · simpa using newA
      · simpa using newB
    rw [newcomers]
    split
    · -- The first item stands before all that are new behind it.
      rename_i found
      refine .cons (fun item member => ?_) others
      obtain ⟨middle, back, rfl, new⟩ := mem_newcomers member
      exact ordered [] first middle item back rfl (by simpa using found) (by simpa using new)
    · exact others

/-- What is new among the images of items are the images of the items whose images are new. -/
theorem newcomers_map (isNew : List β → β → Bool) (image : α → β) (before items : List α) :
    newcomers isNew (before.map image) (items.map image) =
      (newcomers (fun before item => isNew (before.map image) (image item)) before items).map
        image := by
  -- Both sides move the first item over to those that came before.
  induction items generalizing before with
  | nil => rfl
  | cons first rest ih =>
    have tail := ih (before ++ [first])
    rw [List.map_append, List.map_singleton] at tail
    rw [List.map_cons, newcomers, newcomers, tail]
    split <;> rfl

/-- Whether a record has the identity of another one, which has an identifier. -/
def EntitySchema.isSame (entity : EntitySchema) (record other : Record) : Bool :=
  match entity.distinctionOf record with
  | .by identity => entity.identifies other && entity.distinctionOf other == .by identity
  | _ => false

/-- Whether a record has an identifier that none of some others has. -/
def EntitySchema.isNew (entity : EntitySchema) (before : List Record) (record : Record) : Bool :=
  entity.identifies record && !before.any (entity.isSame record)

variable {entity : EntitySchema} {branch next : Branch} {rows before : List FetchedRow}
  {record other : Record}

/-- Records are the same where they have one identity. -/
theorem EntitySchema.isSame_iff : entity.isSame record other = true ↔
    entity.identifies other = true ∧ ∃ identity,
      entity.distinctionOf record = .by identity ∧ entity.distinctionOf other = .by identity := by
  -- A record whose identity cannot be told is the same as none.
  unfold isSame
  cases entity.distinctionOf record <;> simp

/-- A record is new where no other one has its identity. -/
theorem EntitySchema.isNew_iff {records : List Record} : entity.isNew records record = true ↔
    entity.identifies record = true ∧ ∀ other ∈ records, entity.isSame record other = false := by
  simp [isNew]

/-- The record of a row that is passed over is not new. -/
theorem Branch.Gathered.isNew_of_passesOver {row : FetchedRow}
    (gathered : branch.Gathered entity before) (passed : branch.PassesOver row) :
    entity.isNew (before.map entity.extract) (entity.extract row) = false := by
  rw [Bool.eq_false_iff]
  intro new
  obtain ⟨identified, different⟩ := EntitySchema.isNew_iff.mp new
  have own := gathered.entity_eq
  rcases passed with missing | ⟨identity, seen, found⟩
  · rw [own, identified] at missing
    contradiction
  · -- What was seen is the identity of a record that came from a row before.
    obtain ⟨record, inside, same⟩ := gathered.held identity seen
    obtain ⟨present, earlier, member, rfl⟩ := gathered.origin record inside
    have alike := different _ (List.mem_map_of_mem member)
    rw [own] at found
    rw [EntitySchema.isSame_iff.mpr ⟨present, identity, found, same⟩] at alike
    contradiction

/-- The record of a row that is taken in is new. -/
theorem Branch.Gathered.isNew_of_takesIn {row : FetchedRow}
    (gathered : branch.Gathered entity before) (taken : branch.TakesIn row next) :
    entity.isNew (before.map entity.extract) (entity.extract row) = true := by
  have own := gathered.entity_eq
  have identified := taken.1
  rw [own] at identified
  refine EntitySchema.isNew_iff.mpr ⟨identified, fun other member => ?_⟩
  -- An identity that came before would have been seen.
  obtain ⟨earlier, inside, rfl⟩ := List.mem_map.mp member
  rw [Bool.eq_false_iff]
  intro same
  obtain ⟨present, identity, found, paired⟩ := EntitySchema.isSame_iff.mp same
  have seen := gathered.represented earlier inside present identity paired
  rw [← own] at found
  exact (taken.seen_new found).1 seen

/-- Going through rows a branch takes in the records that are new. -/
theorem Branch.Gathered.records_addRows (gathered : branch.Gathered entity before)
    (added : rows.foldlM Branch.add branch = .ok next) :
    next.records = branch.records ++
      newcomers entity.isNew (before.map entity.extract) (rows.map entity.extract) := by
  -- Each row moves over to those that came before.
  induction rows generalizing branch before with
  | nil =>
    cases added
    exact (List.append_nil _).symm
  | cons row rest ih =>
    obtain ⟨middle, head, tail⟩ := foldlM_cons_eq_ok.mp added
    have later := ih (gathered.add head) tail
    rw [List.map_append, List.map_singleton] at later
    rw [List.map_cons, newcomers, later]
    rcases Branch.add_ok head with ⟨rfl, passed⟩ | taken
    · rw [gathered.isNew_of_passesOver passed]
      rfl
    · rw [gathered.isNew_of_takesIn taken, taken.2.2.1, gathered.entity_eq, List.append_assoc]
      rfl

/-- The records of a branch are the new ones among those of all rows. -/
theorem Branch.records_eq_newcomers
    (added : rows.foldlM Branch.add (Branch.start entity) = .ok next) :
    next.records = newcomers entity.isNew [] (rows.map entity.extract) := by
  -- Before the first row there is no record.
  exact (Branch.gathered_start entity).records_addRows added

end Joinery
