import Joinery.Proofs.Database.Fitting
import Mathlib.Data.List.Perm.Subperm

/-! Statements that join the same sources in different orders have the same joined rows, rearranged. -/

namespace Joinery

/-- A joined row with its rows at other places. -/
def rearrange (place : Nat → Nat) (joined : JoinedRow) : JoinedRow :=
  (List.range joined.length).map fun source => joined.getD (place source) []

/-- A statement that joins what another one joins at other places: each source to the same parent. -/
structure Statement.Follows (database : Database) (statement : Statement)
    (parameters : List Parameter) (moved : Statement) (bound : List Parameter)
    (place : Nat → Nat) : Prop where
  /-- There are as many joins. -/
  length : moved.joins.length = statement.joins.length
  /-- The primary rows are the same. -/
  primaryRows : moved.primaryRows database bound = statement.primaryRows database parameters
  /-- The primary source stays where it is. -/
  start : place 0 = 0
  /-- Every join matches the same rows as the one at its place, and links them alike. -/
  joins : ∀ (j : Nat) (paired : Join), moved.joins[j]? = some paired →
    ∃ (i : Nat) (join : Join), place (j + 1) = i + 1 ∧ statement.joins[i]? = some join ∧
      place paired.parent.source = join.parent.source ∧
      paired.source database bound = join.source database parameters ∧
      paired.links (moved.sources database bound) (paired.source database bound) bound =
        join.links (statement.sources database parameters) (join.source database parameters)
          parameters

variable {database : Database} {statement moved : Statement} {parameters bound : List Parameter}
  {place : Nat → Nat} {joined other : JoinedRow}

/-- A rearranged row has as many rows. -/
@[simp] theorem length_rearrange (place : Nat → Nat) (joined : JoinedRow) :
    (rearrange place joined).length = joined.length := by
  rw [rearrange, List.length_map, List.length_range]

/-- At each place a rearranged row has the row that belongs there. -/
theorem getD_rearrange {source : Nat} (inside : source < joined.length) :
    (rearrange place joined).getD source [] = joined.getD (place source) [] := by
  -- The place is inside, so the row that is mapped to it is found there.
  rw [rearrange, List.getD_eq_getElem?_getD, List.getElem?_map, List.getElem?_range inside]
  rfl

/-- What hangs from a source hangs from it at the other places too. -/
theorem Statement.Follows.below
    (follows : Follows database statement parameters moved bound place) {top source : Nat}
    (below : moved.Below top source) : statement.Below (place top) (place source) := by
  -- Each join of the chain has its partner.
  induction below with
  | itself => exact .itself
  | @hanging j paired at_ _ ih =>
    obtain ⟨i, join, here, found, parent, _⟩ := follows.joins j paired at_
    rw [parent] at ih
    rw [here]
    exact .hanging found ih

/-- Rows of all sources that fit together fit together at the other places. -/
theorem Statement.Follows.mem_joinedRows
    (follows : Follows database statement parameters moved bound place)
    (before : statement.ParentsBefore) (beforeToo : moved.ParentsBefore)
    (member : joined ∈ statement.joinedRows database parameters) :
    rearrange place joined ∈ moved.joinedRows database bound := by
  -- Fitting together is told source by source, so each condition moves with its place.
  have fits := (mem_joinedRows_iff before).mp member
  refine (mem_joinedRows_iff beforeToo).mpr ⟨?_, ?_, fun j paired at_ => ?_⟩
  · rw [length_rearrange, fits.length, follows.length]
  · rw [getD_rearrange (by rw [fits.length]; omega), follows.start, follows.primaryRows]
    exact fits.primary
  · -- The row is attached at its old place, and so is it at the new one.
    obtain ⟨short, _⟩ := List.getElem?_eq_some_iff.mp at_
    have parentBefore := beforeToo j paired at_
    have bounded := follows.length
    obtain ⟨i, join, here, found, parent, source, links⟩ := follows.joins j paired at_
    rw [links, source, getD_rearrange (by rw [fits.length]; omega),
      getD_rearrange (by rw [fits.length]; omega), parent, here]
    exact fits.attached i join found

/-- Where every source has a place, rearranged rows are as different as they were. -/
theorem rearrange_injective {count : Nat}
    (onto : ∀ source < count, ∃ moved < count, place moved = source)
    (length : joined.length = count) (lengthToo : other.length = count)
    (same : rearrange place joined = rearrange place other) : joined = other := by
  refine List.ext_getElem (length.trans lengthToo.symm) fun source inside insideToo => ?_
  -- The row of a source stands at its place in both.
  obtain ⟨target, bounded, rfl⟩ := onto source (length ▸ inside)
  have rows : (rearrange place joined).getD target [] =
      (rearrange place other).getD target [] := by rw [same]
  rw [getD_rearrange (by omega), getD_rearrange (by omega)] at rows
  rwa [List.getD_eq_getElem _ _ inside, List.getD_eq_getElem _ _ insideToo] at rows

/-- There are no fewer joined rows at the other places. -/
theorem Statement.Follows.length_joinedRows_le
    (follows : Follows database statement parameters moved bound place)
    (before : statement.ParentsBefore) (beforeToo : moved.ParentsBefore)
    (onto : ∀ source < statement.joins.length + 1,
      ∃ moved < statement.joins.length + 1, place moved = source)
    (distinct : (statement.joinedRows database parameters).Nodup) :
    (statement.joinedRows database parameters).length ≤
      (moved.joinedRows database bound).length := by
  -- No two joined rows become one, and each becomes one of the others.
  have apart : ((statement.joinedRows database parameters).map (rearrange place)).Nodup := by
    refine List.Nodup.map_on (fun a memberA b memberB same => ?_) distinct
    exact rearrange_injective onto (length_of_mem_joinedRows memberA)
      (length_of_mem_joinedRows memberB) same
  have among : (statement.joinedRows database parameters).map (rearrange place) ⊆
      moved.joinedRows database bound := by
    intro row inside
    obtain ⟨joined, member, rfl⟩ := List.mem_map.mp inside
    exact follows.mem_joinedRows before beforeToo member
  have bounded := (apart.subperm among).length_le
  rwa [List.length_map] at bounded

end Joinery
