import Joinery.Proofs.Result.Fetched
import Joinery.Proofs.Result.Newcomers
import Joinery.Proofs.Service.Running
import Joinery.Proofs.Value.Distinction

/-! Rows may come in batches, and every related list holds the first record of each identifier. -/

namespace Joinery

/-- Whether values are equal is told by their identities. -/
instance (a b : Value) : Decidable (a.Equal b) :=
  match found : a.distinction with
  | .by identity =>
    decidable_of_iff (b.distinction = .by identity) (by simp [Value.equal_iff, found])
  | .unique => .isFalse (by simp [Value.equal_iff, found])
  | .none => .isFalse (by simp [Value.equal_iff, found])

/-- Whether a record has an identifier, to which no identifier of some others is equal. -/
def EntitySchema.isFirst (entity : EntitySchema) (before : List Record) (record : Record) : Bool :=
  entity.identifies record &&
    before.all fun other => !decide ((entity.identifierOf other).Equal (entity.identifierOf record))

/-- The first record of every identifier, in the order of the rows. -/
def EntitySchema.firsts (entity : EntitySchema) (rows : List FetchedRow) : List Record :=
  newcomers entity.isFirst [] (rows.map entity.extract)

variable {entity : EntitySchema} {record other : Record} {plan : Plan}
  {gathering middle result : Gathering} {rows : List FetchedRow}

/-- Records that have identifiers are the same where these are equal. -/
theorem EntitySchema.isSame_iff_equal (identified : entity.identifies record = true) :
    entity.isSame record other = true ↔
      (entity.identifierOf other).Equal (entity.identifierOf record) := by
  rw [isSame_iff, Value.equal_iff]
  constructor
  · rintro ⟨_, identity, own, found⟩
    exact ⟨identity, found, own⟩
  · rintro ⟨identity, found, own⟩
    refine ⟨?_, identity, own, found⟩
    -- What is equal to an identifier is not null.
    rw [identifies, Bool.not_eq_true'] at identified ⊢
    cases missing : entity.identifierOf other with
    | null =>
      rw [missing] at found
      cases found
      have null : entity.identifierOf record = .null := Value.described own
      rw [null] at identified
      contradiction
    | _ => rfl

/-- A record is new where its identifier is equal to none before. -/
theorem EntitySchema.isNew_eq_isFirst : entity.isNew = entity.isFirst := by
  -- Being the same and being equal agree where there is an identifier.
  funext before record
  rw [Bool.eq_iff_iff, isNew_iff, isFirst, Bool.and_eq_true, List.all_eq_true]
  refine and_congr_right fun identified => forall₂_congr fun other _ => ?_
  rw [← Bool.not_eq_true, isSame_iff_equal identified]
  simp

/-- Rows that come behind others are added to what those made. -/
theorem Gathering.addAll_append (items others : List Value) (gathering : Gathering) :
    gathering.addAll plan (items ++ others) =
      gathering.addAll plan items >>= fun middle => middle.addAll plan others := by
  -- A row that cannot be added ends both at the same point.
  induction items generalizing gathering with
  | nil => rfl
  | cons item rest ih =>
    rw [List.cons_append, addAll, addAll]
    split
    · rfl
    · exact ih _

/-- The records with those of several batches of rows, one batch after the other. -/
def Gathering.addBatches (plan : Plan) (gathering : Gathering) (batches : List (List FetchedRow)) :
    Except Misuse Gathering :=
  batches.foldlM (fun gathering batch => gathering.addAll plan (batch.map .map)) gathering

/-- Batches of rows make what all their rows make. -/
theorem Gathering.addBatches_eq_addAll (batches : List (List FetchedRow)) (gathering : Gathering) :
    gathering.addBatches plan batches = gathering.addAll plan (batches.flatten.map .map) := by
  -- A batch is added row by row.
  induction batches generalizing gathering with
  | nil => rfl
  | cons batch rest ih =>
    rw [addBatches, List.foldlM_cons, List.flatten_cons, List.map_append, addAll_append]
    exact bind_congr ih

/-- From the start on, the records of every related entity are the first ones of their identifiers. -/
theorem Gathering.branches_eq_firsts
    (gathered : (Gathering.start plan).addAll plan (rows.map .map) = .ok result) :
    result.branches.map (fun branch => (branch.entity, branch.records)) =
      plan.related.map fun entity => (entity, entity.firsts rows) := by
  -- Each branch starts empty and takes the records that are new to it.
  have aligned := (addAll_ok gathered).2
  rw [start, List.forall₂_map_left_iff] at aligned
  generalize result.branches = branches, plan.related = related at aligned
  induction aligned with
  | nil => rfl
  | cons added _ ih =>
    have own := ((Branch.gathered_start _).addRows added).entity_eq
    rw [List.map_cons, List.map_cons, ih, own, Branch.records_eq_newcomers added,
      EntitySchema.isNew_eq_isFirst]
    rfl

/-- The plan that keeps all entities with all fields. -/
def Plan.unprojected (plan : Plan) : Plan :=
  { plan with selectedEntities := [], selectedFields := [] }

/-- Without a projection a result tells everything that was gathered. -/
theorem Gathering.toResult_unprojected (plan : Plan) (gathering : Gathering) :
    (gathering.toResult plan.unprojected).data =
        (plan.primary.key, (gathering.primary.map Value.map).getD .null) ::
          gathering.branches.map (fun branch =>
            (branch.entity.key, .list (branch.records.map .map))) ∧
      (gathering.toResult plan.unprojected).counts =
        (plan.primary.key, if gathering.primary.isSome then 1 else 0) ::
          gathering.branches.map fun branch => (branch.entity.key, (branch.records.length : Int)) := by
  -- Nothing is left out, neither an entity nor a field.
  have every (key : String) : plan.unprojected.keeps key = true := rfl
  have whole (key : String) (record : Record) : plan.unprojected.project key record = record := rfl
  have kept : gathering.sections plan.unprojected =
      gathering.primarySection plan.unprojected ::
        gathering.branches.map (·.section plan.unprojected) := by
    rw [sections, List.filter_eq_self]
    exact fun part _ => every part.key
  simp only [toResult, kept, List.map_cons, List.map_map, primarySection, Function.comp_def,
    Branch.section, whole]
  cases gathering.primary <;> exact ⟨rfl, rfl⟩

/-- A row with the identifier of a pet, and perhaps its name. -/
def petRow (id : Value) (name : Entries Value) : FetchedRow :=
  [("owner__id", .text "A"), ("pet__id", id)] ++ name

/-- Rows in which the number one comes in four forms, and identifiers or columns are missing. -/
def mixedRows : List FetchedRow :=
  [petRow (.int 1) [("pet__name", .text "Ada")], petRow (.float (.ofInt 1)) [],
    petRow (.bool true) [], [("owner__id", .text "B")],
    petRow .null [("pet__name", .text "Bix")], petRow (.decimal (.finite false 10 (-1))) [],
    petRow (.text "1") []]

end Joinery
