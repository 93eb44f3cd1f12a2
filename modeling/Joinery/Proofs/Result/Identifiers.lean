import Joinery.Proofs.Database.Ranking
import Joinery.Proofs.Result.Gathering
import Joinery.Proofs.Value.Identity
import Mathlib.Data.List.Pairwise

/-! Identifiers tell the rows of a table apart, and with them the records that are read from it. -/

namespace Joinery

/-- The identifier of an entity's row, as it is stored. -/
def EntitySchema.identifierCell (entity : EntitySchema) (relation : Relation) (row : Row) : Cell :=
  relation.cell (readBack entity.identifierField) row

/-- Whether the identifiers of two rows differ as the database compares them. -/
def EntitySchema.StoredApart (entity : EntitySchema) (relation : Relation) (a b : Row) : Prop :=
  -- Numbers are compared by size, in whatever form they are stored.
  (entity.identifierCell relation a).same (entity.identifierCell relation b) = false

instance (entity : EntitySchema) (relation : Relation) : Std.Symm (entity.StoredApart relation) where
  symm _ _ apart := (Cell.same_comm _ _).trans apart

/-- Whether the identifiers of two rows differ as values: one moment, stored in two ways, does not. -/
def EntitySchema.ReadApart (entity : EntitySchema) (relation : Relation) (a b : Row) : Prop :=
  -- An identifier that cannot be read is no value that another one could equal.
  ∀ first second, entity.readField relation a entity.identifierField = .ok first →
    entity.readField relation b entity.identifierField = .ok second →
      first.distinction ≠ second.distinction

instance (entity : EntitySchema) (relation : Relation) : Std.Symm (entity.ReadApart relation) where
  symm _ _ apart first second readA readB := (apart second first readB readA).symm

/-- Every row of a table has an identifier, and no two rows have the same one. -/
structure EntitySchema.Identified (entity : EntitySchema) (relation : Relation) : Prop where
  /-- Every identifier can tell its row apart. -/
  present : ∀ row ∈ relation.rows, (entity.identifierCell relation row).identifies = true
  /-- No two identifiers are the same. -/
  apart : relation.rows.Pairwise (entity.ReadApart relation)

variable {entity : EntitySchema} {relation : Relation} {row other : Row} {record otherRecord : Record}

/-- A meaning whose values are fetched as they are stored: texts and numbers. -/
def SemanticType.isPlain : SemanticType → Bool
  | .boolean | .datetime => false
  | _ => true

instance (entity : EntitySchema) (relation : Relation) :
    DecidableRel (entity.StoredApart relation) := fun _ _ => inferInstanceAs (Decidable (_ = false))

/-- Texts and numbers are the same identifier only where the database takes them for the same. -/
theorem EntitySchema.identified_of_cells (plain : (entity.fieldType entity.identifierField).isPlain)
    (present : ∀ row ∈ relation.rows, (entity.identifierCell relation row).identifies = true)
    (apart : relation.rows.Pairwise (entity.StoredApart relation)) :
    entity.Identified relation := by
  -- Values of one identity come from cells of one place.
  refine ⟨present, List.Pairwise.imp_of_mem ?_ apart⟩
  intro a b insideA insideB different first second readA readB same
  have stored (row : Row) (value : Value)
      (read : entity.readField relation row entity.identifierField = .ok value) :
      value = (entity.identifierCell relation row).toValue := by
    simp only [readField] at read
    cases type : entity.fieldType entity.identifierField <;>
      simp_all [Cell.fetch, SemanticType.isPlain, identifierCell]
  rw [stored a first readA, stored b second readB] at same
  have equal := Cell.same_of_distinction (present a insideA) (present b insideB) same
  exact Bool.false_ne_true (different.symm.trans equal)

/-- A fetched identifier has an identity. -/
theorem Cell.distinction_of_fetch {type : Option SemanticType} {cell : Cell} {value : Value}
    (usable : cell.identifies = true) (fetched : cell.fetch type = .ok value) :
    ∃ identity, value.distinction = .by identity := by
  -- Only what is no number equals nothing, and only lists and mappings have no identity.
  simp only [Cell.fetch] at fetched
  split at fetched
  · cases fetched
    cases cell with
    | null => contradiction
    | _ => exact ⟨_, rfl⟩
  · cases cell with
    | text s =>
      simp only [Cell.toMoment] at fetched
      split at fetched
      · rename_i moment _
        cases fetched
        obtain ⟨time, offset⟩ := moment
        cases offset <;> exact ⟨_, rfl⟩
      · contradiction
    | _ => contradiction
  · cases fetched
    rcases identifies_cases usable with ⟨_, _, _, identity, _⟩ | ⟨_, rfl⟩ | ⟨_, rfl⟩
    · exact ⟨_, identity⟩
    · exact ⟨_, rfl⟩
    · exact ⟨_, rfl⟩

/-- The record of a row with a usable identifier has an identifier, and the identifier has an identity. -/
theorem EntitySchema.distinction_of_usable
    (declared : entity.declares entity.identifierField = true)
    (usable : (entity.identifierCell relation row).identifies = true)
    (read : entity.readRow relation row = .ok record) :
    entity.identifies record = true ∧ ∃ identity, entity.distinctionOf record = .by identity := by
  -- The identifier is fetched from a cell that tells the row apart.
  have field := readRow_identifier declared read
  refine ⟨?_, Cell.distinction_of_fetch usable field⟩
  rw [identifies, Cell.isNull_of_fetch field]
  change (entity.identifierCell relation row).isNull.not = true
  cases found : entity.identifierCell relation row <;> simp_all [Cell.isNull, Cell.identifies]

/-- The record of an identified row has an identifier, and the identifier has an identity. -/
theorem EntitySchema.Identified.distinction_of_readRow
    (declared : entity.declares entity.identifierField = true)
    (identified : entity.Identified relation) (member : row ∈ relation.rows)
    (read : entity.readRow relation row = .ok record) :
    entity.identifies record = true ∧ ∃ identity, entity.distinctionOf record = .by identity :=
  -- The row is present, so its identifier has been read into the record.
  distinction_of_usable declared (identified.present row member) read

/-- Rows whose records have one identity are one row. -/
theorem EntitySchema.Identified.eq_of_distinction
    (declared : entity.declares entity.identifierField = true)
    (identified : entity.Identified relation) (member : row ∈ relation.rows)
    (otherMember : other ∈ relation.rows) (read : entity.readRow relation row = .ok record)
    (otherRead : entity.readRow relation other = .ok otherRecord)
    (same : entity.distinctionOf record = entity.distinctionOf otherRecord) : row = other := by
  -- Different rows would have different identities.
  by_contra different
  exact identified.apart.forall member otherMember different _ _
    (readRow_identifier declared read) (readRow_identifier declared otherRead) same

/-- What a ranking keeps of a table is identified as the table is. -/
theorem EntitySchema.Identified.ranked {parameters : List Parameter}
    (identified : entity.Identified relation)
    (found : relation.hasColumn (readBack entity.identifierField) = true)
    (ranking : Ranking) : entity.Identified (relation.ranked ranking parameters) := by
  have kept := relation.rows_ranked_sublist ranking parameters
  -- A rank at the end of a row changes nothing in its identifier.
  have cells {ranked : Row × Nat} (inside : ranked ∈ relation.ranks ranking parameters) :
      entity.identifierCell (relation.ranked ranking parameters) (rankedRow ranked) =
        entity.identifierCell relation ranked.1 :=
    Relation.cell_ranked ranking parameters found
      (relation.mem_of_mem_ranks ranking parameters ranked inside) ranked.2
  constructor
  · intro row member
    obtain ⟨ranked, inside, rfl⟩ := List.mem_map.mp (kept.subset member)
    rw [cells inside]
    exact identified.present _ (relation.mem_of_mem_ranks ranking parameters ranked inside)
  · -- The rows that are ranked are apart, as they are in the table.
    have among : (relation.restrict ranking.conditions parameters).Pairwise
        (entity.ReadApart relation) := identified.apart.sublist List.filter_sublist
    have apart : ((relation.ranks ranking parameters).map Prod.fst).Pairwise
        (entity.ReadApart relation) :=
      (relation.map_fst_ranks_perm ranking parameters).symm.pairwise among
        (Std.Symm.symm _ _ ·)
    refine List.Pairwise.sublist kept (List.pairwise_map.mpr ?_)
    refine (List.pairwise_map.mp apart).imp_of_mem fun insideA insideB different => ?_
    intro first second readA readB
    unfold readField at readA readB
    refine different first second ?_ ?_
    · rw [← readA]
      exact congrArg _ (cells insideA).symm
    · rw [← readB]
      exact congrArg _ (cells insideB).symm

end Joinery
