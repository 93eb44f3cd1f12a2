import Joinery.Proofs.Outcome
import Joinery.Value.Misuse
import Mathlib.Order.MinMax

/-!
A value can be shown when it is not nested too deeply and every number in it can be written.

What stands in such a value can be shown as well.
-/

namespace Joinery

/-- A value stands in another one: it is that value, or it stands in something that the value holds. -/
inductive Value.StandsIn : Value → Value → Prop where
  /-- A value stands in itself. -/
  | self (value : Value) : StandsIn value value
  /-- It stands in an item of a list. -/
  | item {part item : Value} {items : List Value} (member : item ∈ items)
    (inside : StandsIn part item) : StandsIn part (.list items)
  /-- It stands in a value under a key. -/
  | entry {part value : Value} {key : String} {entries : List (String × Value)}
    (member : (key, value) ∈ entries) (inside : StandsIn part value) : StandsIn part (.map entries)

mutual

/-- How many levels of lists and mappings a value has. -/
def Value.depth : Value → Nat
  | .list items => Value.depthOfItems items + 1
  | .map entries => Value.depthOfEntries entries + 1
  | _ => 0

/-- How many levels the deepest of several values has. -/
def Value.depthOfItems : List Value → Nat
  | [] => 0
  | item :: rest => max item.depth (Value.depthOfItems rest)

/-- How many levels the deepest of several values under keys has. -/
def Value.depthOfEntries : List (String × Value) → Nat
  | [] => 0
  | (_, value) :: rest => max value.depth (Value.depthOfEntries rest)

end

/-- A value that can be shown in so many levels. -/
structure Value.Showable (levels : Nat) (value : Value) : Prop where
  /-- It has no more levels than that. -/
  shallow : value.depth ≤ levels
  /-- Every number in it can be written. -/
  written : ∀ n, (Value.int n).StandsIn value → isWritable n = true

variable {value item : Value} {items : List Value} {entries : List (String × Value)} {levels : Nat}
  {misuse : Misuse}

/-- Items have no more levels than the deepest of them. -/
theorem Value.depthOfItems_le : depthOfItems items ≤ levels ↔ ∀ item ∈ items, item.depth ≤ levels := by
  -- The deepest of all is the first one, or the deepest of the others.
  induction items with
  | nil => simp [depthOfItems]
  | cons item rest ih => rw [depthOfItems, max_le_iff, ih, List.forall_mem_cons]

/-- Values under keys have no more levels than the deepest of them. -/
theorem Value.depthOfEntries_le :
    depthOfEntries entries ≤ levels ↔ ∀ entry ∈ entries, entry.2.depth ≤ levels := by
  -- The keys play no part in it.
  induction entries with
  | nil => simp [depthOfEntries]
  | cons entry rest ih => rw [depthOfEntries, max_le_iff, ih, List.forall_mem_cons]

/-- What stands in a value has no more levels than it. -/
theorem Value.StandsIn.depth_le {part : Value} (inside : part.StandsIn value) : part.depth ≤ value.depth := by
  -- Each step outwards adds a level.
  induction inside with
  | self => exact le_rfl
  | item member _ ih => exact ih.trans (Nat.le_succ_of_le (depthOfItems_le.mp le_rfl _ member))
  | entry member _ ih => exact ih.trans (Nat.le_succ_of_le (depthOfEntries_le.mp le_rfl _ member))

/-- What stands in something that stands in a value stands in the value. -/
theorem Value.StandsIn.trans {part : Value} (inside : part.StandsIn item)
    (around : item.StandsIn value) : part.StandsIn value := by
  -- The way outwards is the one way after the other.
  induction around with
  | self => exact inside
  | item member _ ih => exact .item member ih
  | entry member _ ih => exact .entry member ih

/-- What stands in a value that can be shown can be shown. -/
theorem Value.Showable.standsIn {part : Value} (showable : value.Showable levels)
    (inside : part.StandsIn value) : part.Showable levels where
  -- What stands in a value is no deeper than it, and its numbers are numbers of the value.
  shallow := inside.depth_le.trans showable.shallow
  written n number := showable.written n (number.trans inside)

/-- A number can be shown exactly when it can be written. -/
theorem Value.showable_int {n : Int} : (Value.int n).Showable levels ↔ isWritable n = true := by
  refine ⟨fun showable => showable.written n (.self _), fun written => ⟨Nat.zero_le _, fun m number => ?_⟩⟩
  -- Nothing but the number itself stands in a number.
  cases number
  exact written

/-- A list can be shown when a level is left for it and its items can be shown in the others. -/
theorem Value.showable_list :
    (Value.list items).Showable (levels + 1) ↔ ∀ item ∈ items, item.Showable levels := by
  constructor
  · intro showable item member
    have shallow := depthOfItems_le.mp (Nat.le_of_succ_le_succ showable.shallow)
    exact ⟨shallow item member, fun n number => showable.written n (.item member number)⟩
  · intro each
    refine ⟨Nat.succ_le_succ (depthOfItems_le.mpr fun item member => (each item member).shallow), ?_⟩
    -- A number in a list stands in one of its items.
    rintro n (_ | ⟨member, number⟩ | _)
    exact (each _ member).written n number

/-- A mapping can be shown when a level is left for it and its values can be shown in the others. -/
theorem Value.showable_map :
    (Value.map entries).Showable (levels + 1) ↔ ∀ entry ∈ entries, entry.2.Showable levels := by
  constructor
  · intro showable entry member
    have shallow := depthOfEntries_le.mp (Nat.le_of_succ_le_succ showable.shallow)
    exact ⟨shallow entry member, fun n number => showable.written n (.entry member number)⟩
  · intro each
    refine ⟨Nat.succ_le_succ (depthOfEntries_le.mpr fun entry member => (each entry member).shallow), ?_⟩
    -- A number in a mapping stands in a value under one of its keys.
    rintro n (_ | _ | ⟨member, number⟩)
    exact (each _ member).written n number

/-- The failures to show a value: it is nested too deeply, or a number in it cannot be written. -/
def Value.Unshown (levels : Nat) (value : Value) (misuse : Misuse) : Prop :=
  misuse = .tooDeep ∧ levels < value.depth ∨
    misuse = .notAllowed unwritableIntegerText ∧
      ∃ n, (Value.int n).StandsIn value ∧ isWritable n = false

/-- What cannot be shown cannot be shown in anything that it stands in, for the same reason. -/
theorem Value.Unshown.standsIn {part : Value} (failed : part.Unshown levels misuse)
    (inside : part.StandsIn value) : value.Unshown levels misuse := by
  -- There are two reasons, the depth and a number, and both go on to the whole.
  rcases failed with ⟨same, deep⟩ | ⟨same, n, number, long⟩
  · exact .inl ⟨same, deep.trans_le inside.depth_le⟩
  · exact .inr ⟨same, n, number.trans inside, long⟩

/-- What fails to be shown in one of the items fails so in the list. -/
theorem Value.Unshown.list (member : item ∈ items) (failed : item.Unshown levels misuse) :
    (Value.list items).Unshown (levels + 1) misuse := by
  -- A list is one level deeper than its items.
  rcases failed with ⟨same, deep⟩ | ⟨same, n, number, long⟩
  · exact .inl ⟨same, Nat.succ_lt_succ (deep.trans_le (depthOfItems_le.mp le_rfl item member))⟩
  · exact .inr ⟨same, n, .item member number, long⟩

/-- What fails to be shown under a key fails so in the mapping. -/
theorem Value.Unshown.map {key : String} (member : (key, item) ∈ entries)
    (failed : item.Unshown levels misuse) : (Value.map entries).Unshown (levels + 1) misuse := by
  -- A mapping is one level deeper than its values.
  rcases failed with ⟨same, deep⟩ | ⟨same, n, number, long⟩
  · exact .inl ⟨same, Nat.succ_lt_succ (deep.trans_le (depthOfEntries_le.mp le_rfl _ member))⟩
  · exact .inr ⟨same, n, .entry member number, long⟩

/-- A value of which no reason tells that it cannot be shown can be shown. -/
theorem Value.showable_iff :
    value.Showable levels ↔ ∀ misuse, ¬ value.Unshown levels misuse := by
  -- The two reasons are the negations of the two conditions.
  constructor
  · rintro showable misuse (⟨_, deep⟩ | ⟨_, n, number, long⟩)
    · exact absurd showable.shallow (Nat.not_le.mpr deep)
    · exact absurd (showable.written n number) (Bool.not_eq_true _ ▸ long)
  · intro none
    refine ⟨Nat.not_lt.mp fun deep => none _ (.inl ⟨rfl, deep⟩), fun n number => ?_⟩
    rw [← Bool.not_eq_false]
    exact fun long => none _ (.inr ⟨rfl, n, number, long⟩)

/-- A number is written exactly when it has not too many digits. -/
theorem checkWritable_eq_ok_iff {n : Int} : checkWritable n = .ok () ↔ isWritable n = true := by
  rw [checkWritable]
  cases isWritable n <;> simp

/-- A number that is not written has too many digits. -/
theorem Value.checkWritable_unshown (n : Int) :
    FailsOnly ((Value.int n).Unshown levels) (checkWritable n) := by
  -- There is one test.
  unfold checkWritable
  split
  · exact .ok _
  · rename_i long
    exact .error (.inr ⟨rfl, n, .self _, Bool.eq_false_iff.mpr long⟩)

mutual

/-- Where the check of a value fails, the value cannot be shown for that reason. -/
theorem Value.checkShown_unshown :
    ∀ (value : Value) (levels : Nat), FailsOnly (value.Unshown levels) (value.checkShown levels)
  -- The case split is that of the check, and the three theorems take turns as the checks do.
  | .int n, levels => by
    rw [checkShown]
    exact checkWritable_unshown n
  | .list items, 0 => .error (.inl ⟨rfl, Nat.succ_pos _⟩)
  | .map entries, 0 => .error (.inl ⟨rfl, Nat.succ_pos _⟩)
  | .list items, levels + 1 => fun misuse failed =>
    have ⟨item, member, unshown⟩ := checkShownItems_unshown items levels misuse failed
    .list member unshown
  | .map entries, levels + 1 => fun misuse failed =>
    have ⟨_, _, member, unshown⟩ := checkShownEntries_unshown entries levels misuse failed
    .map member unshown
  | .null, _ | .bool _, _ | .float _, _ | .decimal _, _ | .text _, _ | .moment _, _ | .date _, _ => by
    rw [checkShown]
    · exact .ok _
    all_goals nofun

/-- Where the check of items fails, one of them cannot be shown for that reason. -/
theorem Value.checkShownItems_unshown : ∀ (items : List Value) (levels : Nat),
    FailsOnly (fun misuse => ∃ item ∈ items, item.Unshown levels misuse)
      (checkShownItems items levels)
  | [], _ => .ok _
  | item :: rest, levels => by
    -- The first item fails, or one of the rest.
    rw [checkShownItems]
    refine FailsOnly.bind ?_ fun _ _ => ?_
    · exact fun misuse failed => ⟨item, List.mem_cons_self, checkShown_unshown item levels misuse failed⟩
    · intro misuse failed
      obtain ⟨other, member, unshown⟩ := checkShownItems_unshown rest levels misuse failed
      exact ⟨other, List.mem_cons_of_mem _ member, unshown⟩

/-- Where the check of values under keys fails, one of them cannot be shown for that reason. -/
theorem Value.checkShownEntries_unshown : ∀ (entries : List (String × Value)) (levels : Nat),
    FailsOnly (fun misuse => ∃ key value, (key, value) ∈ entries ∧ value.Unshown levels misuse)
      (checkShownEntries entries levels)
  | [], _ => .ok _
  | (key, value) :: rest, levels => by
    -- The first value fails, or one of the rest.
    rw [checkShownEntries]
    refine FailsOnly.bind ?_ fun _ _ => ?_
    · exact fun misuse failed =>
        ⟨key, value, List.mem_cons_self, checkShown_unshown value levels misuse failed⟩
    · intro misuse failed
      obtain ⟨key, other, member, unshown⟩ := checkShownEntries_unshown rest levels misuse failed
      exact ⟨key, other, List.mem_cons_of_mem _ member, unshown⟩

end

mutual

/-- A value that passes its check can be shown. -/
theorem Value.showable_of_checkShown :
    ∀ (value : Value) (levels : Nat), value.checkShown levels = .ok () → value.Showable levels
  -- The numbers are tested, the lists and mappings have a level less for what is in them.
  | .int n, levels => by
    rw [checkShown, checkWritable_eq_ok_iff]
    exact showable_int.mpr
  | .list items, 0 | .map entries, 0 => fun checked => by
    rw [checkShown] at checked
    cases checked
  | .list items, levels + 1 => fun checked =>
    showable_list.mpr (showable_of_checkShownItems items levels checked)
  | .map entries, levels + 1 => fun checked =>
    showable_map.mpr (showable_of_checkShownEntries entries levels checked)
  | .null, _ | .bool _, _ | .float _, _ | .decimal _, _ | .text _, _ | .moment _, _ | .date _, _ =>
    fun _ => ⟨Nat.zero_le _, fun _ number => nomatch number⟩

/-- Items that pass their check can be shown. -/
theorem Value.showable_of_checkShownItems : ∀ (items : List Value) (levels : Nat),
    checkShownItems items levels = .ok () → ∀ item ∈ items, item.Showable levels
  | [], _ => fun _ => List.forall_mem_nil _
  | item :: rest, levels => fun checked => by
    -- Each item has passed the check.
    rw [checkShownItems] at checked
    obtain ⟨_, first, others⟩ := bind_eq_ok.mp checked
    exact List.forall_mem_cons.mpr
      ⟨showable_of_checkShown item levels first, showable_of_checkShownItems rest levels others⟩

/-- Values under keys that pass their check can be shown. -/
theorem Value.showable_of_checkShownEntries : ∀ (entries : List (String × Value)) (levels : Nat),
    checkShownEntries entries levels = .ok () → ∀ entry ∈ entries, entry.2.Showable levels
  | [], _ => fun _ => List.forall_mem_nil _
  | (key, value) :: rest, levels => fun checked => by
    -- Each value has passed the check.
    rw [checkShownEntries] at checked
    obtain ⟨_, first, others⟩ := bind_eq_ok.mp checked
    exact List.forall_mem_cons.mpr
      ⟨showable_of_checkShown value levels first, showable_of_checkShownEntries rest levels others⟩

end

/-- The check of a value succeeds exactly when the value can be shown. -/
theorem Value.checkShown_eq_ok_iff : value.checkShown levels = .ok () ↔ value.Showable levels := by
  refine ⟨showable_of_checkShown value levels, fun showable => ?_⟩
  cases checked : value.checkShown levels with
  | ok => rfl
  | error misuse =>
    -- A failure would have a reason, and a value that can be shown has none.
    exact absurd (checkShown_unshown value levels misuse checked) (showable_iff.mp showable misuse)

/-- A value has a text that shows it exactly when it can be shown. -/
theorem Value.show?_eq_ok_iff {text : String} :
    value.show? levels = .ok text ↔ value.Showable levels ∧ value.shown = text := by
  -- The text is made behind the check.
  rw [show?, map_eq_ok, ← checkShown_eq_ok_iff]
  exact ⟨fun ⟨(), checked, same⟩ => ⟨checked, same⟩, fun ⟨checked, same⟩ => ⟨(), checked, same⟩⟩

/-- A value has no text that shows it only when it cannot be shown. -/
theorem Value.show?_unshown (value : Value) (levels : Nat) :
    FailsOnly (value.Unshown levels) (value.show? levels) :=
  -- A text that is made of a checked value cannot fail any more.
  FailsOnly.map (checkShown_unshown value levels)

end Joinery
