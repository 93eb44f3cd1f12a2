import Joinery.Database.Fetching
import Joinery.Proofs.Outcome
import Joinery.Proofs.Value.Entries
import Joinery.Result.Gathering

/-! A fetched row holds for each entity the record of the row that stands at its source. -/

namespace Joinery

/-- The value of an entity's field in a row of its table. -/
def EntitySchema.readField (entity : EntitySchema) (relation : Relation) (row : Row)
    (field : String) : Except DatabaseFault Value :=
  (relation.cell (readBack field) row).fetch (some (entity.fieldType field))

/-- A row of an entity's table as a record. -/
def EntitySchema.readRow (entity : EntitySchema) (relation : Relation) (row : Row) :
    Except DatabaseFault Record :=
  entity.fieldNames.mapM fun field => do
    let value ← entity.readField relation row field
    return (field, value)

/-- The identifier in a record, null when there is none. -/
def EntitySchema.identifierOf (entity : EntitySchema) (record : Record) : Value :=
  (record.get? entity.identifierField).getD .null

/-- The labels of an entity's columns. -/
def EntitySchema.labels (entity : EntitySchema) : List String :=
  entity.fieldNames.map entity.columnLabel

/-- A fetched value is missing exactly when its cell is. -/
theorem Cell.isNull_of_fetch {type : Option SemanticType} {cell : Cell} {value : Value}
    (fetched : cell.fetch type = .ok value) : value.isNull = cell.isNull := by
  -- No meaning makes a value out of nothing, or nothing out of a value.
  simp only [Cell.fetch] at fetched
  split at fetched
  · cases fetched
    cases cell <;> rfl
  · cases cell with
    | null =>
      cases fetched
      rfl
    | text s =>
      simp only [Cell.toMoment] at fetched
      split at fetched
      · cases fetched
        rfl
      · contradiction
    | _ => contradiction
  · cases fetched
    cases cell <;> rfl

variable {entity : EntitySchema} {relation : Relation} {row : Row} {record : Record}

/-- A record has the value of every field of the row that it was read from. -/
theorem EntitySchema.readRow_get? (read : entity.readRow relation row = .ok record)
    {field : String} (declared : field ∈ entity.fieldNames) :
    ∃ value, entity.readField relation row field = .ok value ∧ record.get? field = some value := by
  -- Fields are read in order, and the lookup stops at the first one of the name.
  rw [readRow, mapM_eq_ok] at read
  generalize entity.fieldNames = fields at read declared
  induction read with
  | nil => contradiction
  | @cons first pair fields rest head _ ih =>
    obtain ⟨value, found, same⟩ := bind_eq_ok.mp head
    cases same
    by_cases here : field = first
    · subst here
      exact ⟨value, found, by simp [Entries.get?]⟩
    · obtain ⟨other, foundOther, located⟩ := ih ((List.mem_cons.mp declared).resolve_left here)
      have apart : (field == first) = false := by simpa using here
      refine ⟨other, foundOther, ?_⟩
      simpa only [Entries.get?, List.lookup_cons, apart] using located

/-- The identifier of a record was read from the identifier's column. -/
theorem EntitySchema.readRow_identifier (declared : entity.declares entity.identifierField = true)
    (read : entity.readRow relation row = .ok record) :
    entity.readField relation row entity.identifierField = .ok (entity.identifierOf record) := by
  -- A declared identifier is one of the fields that are read.
  have field : entity.identifierField ∈ entity.fieldNames := by
    obtain ⟨pair, member, same⟩ := List.any_eq_true.mp declared
    exact List.mem_map.mpr ⟨pair, member, by simpa using same⟩
  obtain ⟨value, found, located⟩ := readRow_get? read field
  simp [identifierOf, located, found]

/-- A record without any value has no identifier either. -/
theorem EntitySchema.isNull_identifierOf_of_blank (blank : isBlankRecord record = true) :
    (entity.identifierOf record).isNull = true := by
  -- The identifier is one of the values, or there is none.
  cases located : record.get? entity.identifierField with
  | none => simp [identifierOf, located, Value.isNull]
  | some value =>
    simp only [identifierOf, located, Option.getD_some]
    exact List.all_eq_true.mp blank _ (Entries.mem_of_get? located)

variable {columns : List SelectedColumn} {types : Entries SemanticType} {sources : List Relation}
  {joined : JoinedRow} {fetched : FetchedRow}

/-- Under distinct labels every column of a fetched row is found under its label. -/
theorem fetchRow_get? (distinct : (columns.map (·.label)).Nodup)
    (built : fetchRow columns types sources joined = .ok fetched) {selected : SelectedColumn}
    (member : selected ∈ columns) :
    ∃ value, (selected.ref.cell sources joined).fetch (types.get? selected.label) = .ok value ∧
      fetched.get? selected.label = some value := by
  -- The pairs of labels and values are the fetched row, as no label comes twice.
  obtain ⟨pairs, computed, same⟩ := bind_eq_ok.mp built
  have aligned := mapM_eq_ok.mp computed
  have keys : pairs.map Prod.fst = columns.map (·.label) := by
    clear computed same member distinct built
    induction aligned with
    | nil => rfl
    | cons first _ ih =>
      obtain ⟨value, _, same⟩ := bind_eq_ok.mp first
      cases same
      rw [List.map_cons, List.map_cons, ih]
  rw [← keys] at distinct
  rw [Entries.ofPairs_eq_self distinct] at same
  cases same
  obtain ⟨pair, inside, step⟩ := exists_right_of_aligned aligned member
  obtain ⟨value, found, same⟩ := bind_eq_ok.mp step
  cases same
  exact ⟨value, found, Entries.get?_of_mem distinct inside⟩

/-- Under distinct labels the fields of an entity in a fetched row are the record of the entity's row. -/
theorem fetchRow_extract (distinct : (columns.map (·.label)).Nodup)
    (built : fetchRow columns types sources joined = .ok fetched) {source : Nat}
    (selected : selectedColumns source entity ⊆ columns)
    (typed : ∀ field ∈ entity.fieldNames,
      types.get? (entity.columnLabel field) = some (entity.fieldType field)) :
    entity.readRow (sourceAt sources source) (joined.getD source []) =
      .ok (entity.extract fetched) := by
  -- Field by field the value under the label is the one in the column.
  rw [EntitySchema.readRow, mapM_eq_ok, EntitySchema.extract, List.forall₂_map_right_iff,
    List.forall₂_same]
  intro field member
  have column : (⟨⟨source, field⟩, entity.columnLabel field⟩ : SelectedColumn) ∈ columns :=
    selected (List.mem_map.mpr ⟨field, member, rfl⟩)
  obtain ⟨value, found, located⟩ := fetchRow_get? distinct built column
  rw [typed field member] at found
  exact bind_eq_ok.mpr ⟨value, found, by simp [located, Pure.pure, Except.pure]⟩

end Joinery
