import Joinery.Database.CellValue

/-! The numbers of new rows: one more than the largest number so far, or any number that is left. -/

namespace Joinery

/-- The whole number in a cell. -/
def Cell.number? : Cell → Option Int
  | .integer n => some n
  | _ => none

/-- A cell with a number in it is that number. -/
theorem Cell.number?_eq_some_iff {cell : Cell} {n : Int} :
    cell.number? = some n ↔ cell = .integer n := by
  cases cell <;> simp [number?]

/--
How a database numbers a row when no number follows the largest one.

It tries numbers until it comes upon one that no row has. Which ones it tries is left to it, and can differ
from table to table and from time to time.
-/
structure Numbering where
  /-- The number for a new row of a named table, beside rows of the given numbers. -/
  pick : String → List Int → Option Int
  /-- It has at most sixty-four bits, and no row has it. -/
  fresh : ∀ table numbers n, pick table numbers = some n → fitsInt64 n = true ∧ n ∉ numbers
  /-- It is come upon while there are fewer rows than numbers that are tried. -/
  found : ∀ table numbers, numbers.length < powTwo 62 → ∃ n, pick table numbers = some n

/-- The number that a new row of a named table gets, beside rows of the given keys. -/
def Numbering.next? (numbering : Numbering) (table : String) (keys : List Cell) : Option Int :=
  let numbers := keys.filterMap (·.number?)
  let following := (numbers.max?.map (· + 1)).getD 1
  if fitsInt64 following then some following else numbering.pick table numbers

variable {numbering : Numbering} {table : String} {keys : List Cell}

/-- A number for a new row fits, and no row has it. -/
theorem Numbering.next?_eq_some {n : Int} (next : numbering.next? table keys = some n) :
    fitsInt64 n = true ∧ .integer n ∉ keys := by
  have known : .integer n ∈ keys ↔ n ∈ keys.filterMap (·.number?) := by
    simp [List.mem_filterMap, Cell.number?_eq_some_iff]
  rw [known]
  simp only [next?] at next
  generalize keys.filterMap (·.number?) = numbers at *
  split at next
  · rename_i fits
    cases next
    refine ⟨fits, fun member => ?_⟩
    -- The number is one more than the largest of those that there are.
    cases largest : numbers.max? with
    | none => exact absurd (List.max?_eq_none_iff.mp largest ▸ member) List.not_mem_nil
    | some top =>
      have upTo := (List.max?_eq_some_iff.mp largest).2 _ member
      rw [largest, Option.map_some, Option.getD_some] at upTo
      omega
  · exact numbering.fresh table numbers n next

/-- Every row gets a number while there are fewer rows than numbers. -/
theorem Numbering.exists_next (numbering : Numbering) (table : String)
    (room : keys.length < powTwo 62) : ∃ n, numbering.next? table keys = some n := by
  -- Not every key is a number, so there are no more numbers than keys.
  have short := List.length_filterMap_le (·.number?) keys
  simp only [next?]
  -- Below the largest number the next one is free; above it one is looked for among the unused.
  split
  · exact ⟨_, rfl⟩
  · exact numbering.found table _ (Nat.lt_of_le_of_lt short room)

/-- Rows that are fewer than some numbers do not have all of them. -/
theorem exists_unused {numbers : List Int} {tried : Nat} (fewer : numbers.length < tried) :
    ∃ index < tried, (index : Int) + 1 ∉ numbers := by
  induction tried generalizing numbers with
  | zero => exact absurd fewer (Nat.not_lt_zero _)
  | succ tried ih =>
    by_cases last : (tried : Int) + 1 ∈ numbers
    · -- The rows without the last number are one fewer at least, and so are the numbers.
      have shorter : (numbers.filter (· != (tried : Int) + 1)).length < numbers.length :=
        List.length_filter_lt_length_iff_exists.mpr ⟨_, last, by simp⟩
      obtain ⟨index, inside, unused⟩ := ih (Nat.lt_of_lt_of_le shorter (Nat.lt_succ_iff.mp fewer))
      refine ⟨index, Nat.lt_succ_of_lt inside, fun member => unused ?_⟩
      exact List.mem_filter.mpr ⟨member, by simp; omega⟩
    · exact ⟨tried, Nat.lt_succ_self tried, last⟩

/-- The numbering that tries the numbers from one on. -/
def Numbering.smallest : Numbering where
  pick _ numbers :=
    ((List.range (numbers.length + 1)).map fun n : Nat => (n : Int) + 1).find? fun n =>
      fitsInt64 n && !numbers.contains n
  fresh _ numbers n found := by
    have unused := List.find?_some found
    rw [Bool.and_eq_true, Bool.not_eq_true'] at unused
    exact ⟨unused.1, fun member => by simp [member] at unused⟩
  found _ numbers room := by
    have few : numbers.length < 2 ^ 62 := room
    obtain ⟨index, inside, unused⟩ := exists_unused (Nat.lt_succ_self numbers.length)
    have fits : fitsInt64 ((index : Int) + 1) = true := by
      simp only [fitsInt64, Bool.and_eq_true, decide_eq_true_eq]
      omega
    rw [← Option.isSome_iff_exists, List.find?_isSome]
    exact ⟨_, List.mem_map_of_mem (List.mem_range.mpr inside), by simp [fits, unused]⟩

/-- What a database takes from the machine on which it stores rows. -/
structure Host where
  /-- What the clock of the machine shows. -/
  clock : LocalTime
  /-- How rows are numbered when no number follows the largest one. -/
  numbering : Numbering

end Joinery
