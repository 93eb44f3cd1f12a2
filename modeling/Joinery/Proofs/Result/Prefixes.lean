import Joinery.Proofs.Result.Gathering

/-! More rows only go on with the lists of records that fewer rows lead to. -/

namespace Joinery

variable {branch next shorter longer : Branch} {row : FetchedRow} {rows front : List FetchedRow}

/-- A row adds at most one record to a branch, behind those that are there. -/
theorem Branch.add_records (added : branch.add row = .ok next) :
    ∃ new : List Record, next.records = branch.records ++ new ∧ new.length ≤ 1 := by
  -- The row is passed over, or its record goes to the end.
  rcases Branch.add_ok added with ⟨rfl, _⟩ | taken
  · exact ⟨[], (List.append_nil _).symm, Nat.zero_le 1⟩
  · exact ⟨[branch.entity.extract row], taken.2.2.1, Nat.le_refl 1⟩

/-- Rows add no more records than they are, behind those that are there. -/
theorem Branch.addRows_records (added : rows.foldlM Branch.add branch = .ok next) :
    ∃ new : List Record, next.records = branch.records ++ new ∧ new.length ≤ rows.length := by
  -- Each row adds its record, if any, before the later ones.
  induction rows generalizing branch with
  | nil =>
    cases added
    exact ⟨[], (List.append_nil _).symm, Nat.le_refl 0⟩
  | cons row rest ih =>
    obtain ⟨middle, head, tail⟩ := foldlM_cons_eq_ok.mp added
    obtain ⟨own, first, single⟩ := add_records head
    obtain ⟨others, last, bounded⟩ := ih tail
    refine ⟨own ++ others, by rw [last, first, List.append_assoc], ?_⟩
    rw [List.length_append, List.length_cons]
    omega

/-- A branch that starts has no more records than it was given rows. -/
theorem Branch.length_records_le {entity : EntitySchema}
    (added : rows.foldlM Branch.add (Branch.start entity) = .ok next) :
    next.records.length ≤ rows.length := by
  -- There are no records at the start.
  obtain ⟨new, same, bounded⟩ := addRows_records added
  rw [same]
  exact bounded

/-- No list of a result is longer than the rows that it was gathered from. -/
theorem Gathering.length_list_le {plan : Plan} {gathering : Gathering} {key : String}
    {items : List Value}
    (gathered : (Gathering.start plan).addAll plan (rows.map .map) = .ok gathering)
    (listed : (gathering.toResult plan).data.get? key = some (.list items)) :
    items.length ≤ rows.length := by
  -- What is listed is a section of the result.
  obtain ⟨part, inside, same⟩ := List.mem_map.mp (Entries.mem_of_get? listed)
  have content : part.content = .list items := congrArg Prod.snd same
  rcases List.mem_cons.mp (List.mem_of_mem_filter inside) with rfl | related
  · -- The primary entity has one record and no list.
    unfold primarySection at content
    split at content <;> contradiction
  · obtain ⟨branch, member, rfl⟩ := List.mem_map.mp related
    obtain ⟨start, began, added⟩ := exists_left_of_aligned (addAll_ok gathered).2 member
    obtain ⟨entity, _, rfl⟩ := List.mem_map.mp began
    cases content
    rw [List.length_map]
    exact Branch.length_records_le added

/-- The records of the first rows are the first records of all rows. -/
theorem Branch.records_prefix (among : front <+: rows)
    (fewer : front.foldlM Branch.add branch = .ok shorter)
    (more : rows.foldlM Branch.add branch = .ok longer) : shorter.records <+: longer.records := by
  -- All rows are gone through as the first ones are, and then the others.
  obtain ⟨back, rfl⟩ := among
  rw [List.foldlM_append, fewer] at more
  have later : back.foldlM Branch.add shorter = .ok longer := more
  obtain ⟨new, same, _⟩ := addRows_records later
  exact ⟨new, same.symm⟩

end Joinery
