import Joinery.Proofs.Result.Gathering

/-! Rows that were fetched can always be gathered, and a result says something about every entity that is kept. -/

namespace Joinery

/-- Whether every value that is found in a row is equal to something, or at least to nothing. -/
def Entries.Telling (row : Entries Value) : Prop :=
  ∀ label value, row.get? label = some value → value.distinction ≠ .none

/-- Neither lists nor mappings are fetched, nor numbers that signal. -/
theorem Cell.distinction_ne_none_of_fetch {type : Option SemanticType} {cell : Cell} {value : Value}
    (fetched : cell.fetch type = .ok value) : value.distinction ≠ .none := by
  -- A cell is read as a truth, as a moment, or as it is.
  simp only [Cell.fetch] at fetched
  split at fetched
  · cases fetched
    cases cell <;> simp [Cell.toTruth, Value.distinction]
  · cases cell with
    | null =>
      cases fetched
      simp [Value.distinction]
    | text s =>
      simp only [Cell.toMoment] at fetched
      split at fetched
      · rename_i moment _
        cases fetched
        obtain ⟨time, offset⟩ := moment
        cases offset <;> simp [Value.distinction]
      · contradiction
    | _ => contradiction
  · cases fetched
    cases cell with
    | real number => cases number <;> simp [Cell.toValue, Value.distinction]
    | _ => simp [Cell.toValue, Value.distinction]

/-- Every value that is found in a fetched row was fetched from a cell. -/
theorem fetchRow_telling {columns : List SelectedColumn} {types : Entries SemanticType}
    {sources : List Relation} {joined : JoinedRow} {fetched : FetchedRow}
    (built : fetchRow columns types sources joined = .ok fetched) : Entries.Telling fetched := by
  -- A fetched value was read from a cell, and a cell holds nothing that cannot be told.
  obtain ⟨pairs, computed, same⟩ := bind_eq_ok.mp built
  cases same
  intro label value found
  obtain ⟨selected, _, step⟩ :=
    exists_left_of_aligned (mapM_eq_ok.mp computed) (Entries.mem_of_get?_ofPairs found)
  obtain ⟨content, read, same⟩ := bind_eq_ok.mp step
  cases same
  exact Cell.distinction_ne_none_of_fetch read

variable {row : FetchedRow} {rows : List FetchedRow} {plan : Plan} {gathering result : Gathering}

/-- The identifier that an entity has in a row is equal to something, or at least to nothing. -/
theorem EntitySchema.distinction_ne_none_of_telling (entity : EntitySchema)
    (telling : Entries.Telling row) : entity.distinctionOf (entity.extract row) ≠ .none := by
  -- It is a value of the row, or null in the place of one that is missing.
  unfold distinctionOf identifierOf
  cases located : (entity.extract row).get? entity.identifierField with
  | none => simp [Value.distinction]
  | some value =>
    obtain ⟨field, _, same⟩ := List.mem_map.mp (Entries.mem_of_get? located)
    cases same
    simp only [Option.getD_some]
    cases found : row.get? (entity.columnLabel entity.identifierField) with
    | none => simp [Value.distinction]
    | some content => exact telling _ _ found

/-- Whether the identifier that an entity has in a row can be compared with others. -/
def EntitySchema.Comparable (entity : EntitySchema) (row : FetchedRow) : Prop :=
  entity.distinctionOf (entity.extract row) ≠ .none

/-- A row can be added to a branch when its identifier can be compared. -/
theorem Branch.exists_add {branch : Branch} (comparable : branch.entity.Comparable row) :
    ∃ next, branch.add row = .ok next ∧ next.entity = branch.entity := by
  -- Only an identifier that cannot be compared with others stops a row.
  unfold EntitySchema.Comparable EntitySchema.distinctionOf EntitySchema.identifierOf at comparable
  simp only [add]
  split
  · exact ⟨_, rfl, rfl⟩
  · unfold Branch.include
    split
    · contradiction
    · exact ⟨_, rfl, rfl⟩
    · split <;> exact ⟨_, rfl, rfl⟩

/-- A row goes to every branch when its identifiers can be compared. -/
theorem exists_addToBranches {branches : List Branch}
    (comparable : ∀ entity ∈ branches.map (·.entity), entity.Comparable row) :
    ∃ others, addToBranches row branches = (others, none) ∧
      others.map (·.entity) = branches.map (·.entity) := by
  -- The row is added to one branch after the other.
  induction branches with
  | nil => exact ⟨_, rfl, rfl⟩
  | cons branch rest ih =>
    rw [List.map_cons, List.forall_mem_cons] at comparable
    obtain ⟨next, added, own⟩ := Branch.exists_add comparable.1
    obtain ⟨others, remaining, same⟩ := ih comparable.2
    exact ⟨next :: others, by simp only [addToBranches, added, remaining],
      by rw [List.map_cons, List.map_cons, own, same]⟩

/-- Rows are all gathered when their identifiers can be compared. -/
theorem Gathering.exists_addAll_of_comparable
    (comparable : ∀ row ∈ rows, ∀ entity ∈ gathering.branches.map (·.entity), entity.Comparable row) :
    ∃ result, gathering.addAll plan (rows.map .map) = .ok result := by
  -- Row after row goes to every branch, and the branches stay those of the same entities.
  induction rows generalizing gathering with
  | nil => exact ⟨_, rfl⟩
  | cons row rest ih =>
    rw [List.forall_mem_cons] at comparable
    obtain ⟨branches, added, same⟩ := exists_addToBranches comparable.1
    simp only [List.map_cons, addAll, addValue, Gathering.add, added]
    exact ih (same ▸ comparable.2)

/-- Rows whose values can be told are all gathered. -/
theorem Gathering.exists_addAll (telling : ∀ row ∈ rows, Entries.Telling row)
    (gathering : Gathering) :
    ∃ result, gathering.addAll plan (rows.map .map) = .ok result :=
  -- What can be told can be compared, for whatever entity.
  exists_addAll_of_comparable fun row member entity _ =>
    entity.distinction_ne_none_of_telling (telling row member)

/-- The names of the entities that a plan keeps, the primary one first. -/
def Plan.keptKeys (plan : Plan) : List String :=
  ((plan.primary :: plan.related).map (·.key)).filter plan.keeps

/-- The parts of a result are named for the entities that are kept. -/
theorem Gathering.keys_sections
    (gathered : (Gathering.start plan).addAll plan (rows.map .map) = .ok result) :
    (result.sections plan).map (·.key) = plan.keptKeys := by
  -- There is a branch for each related entity.
  have branches : result.branches.map (·.entity.key) = plan.related.map (·.key) := by
    have aligned := branches_ok gathered
    generalize result.branches = branches, plan.related = related at aligned
    induction aligned with
    | nil => rfl
    | cons first _ ih => rw [List.map_cons, List.map_cons, ih, first.entity_eq]
  have primary : (result.primarySection plan).key = plan.primary.key := by
    unfold primarySection
    split <;> rfl
  have whole : (result.primarySection plan :: result.branches.map (·.section plan)).map (·.key) =
      (plan.primary :: plan.related).map (·.key) := by
    rw [List.map_cons, List.map_cons, primary, List.map_map, ← branches]
    rfl
  rw [sections, Plan.keptKeys, ← whole, List.filter_map]
  rfl

/-- A result tells the records and their number for every entity that is kept, and no other. -/
theorem Gathering.keys_toResult
    (gathered : (Gathering.start plan).addAll plan (rows.map .map) = .ok result) :
    (result.toResult plan).data.keys = plan.keptKeys ∧
      (result.toResult plan).counts.keys = plan.keptKeys := by
  -- Data and counts are made of the same sections.
  rw [← keys_sections gathered]
  simp [toResult, Entries.keys, Function.comp_def]

end Joinery
