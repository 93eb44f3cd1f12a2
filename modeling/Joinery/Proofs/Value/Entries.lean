import Joinery.Value.Entries
import Mathlib.Data.List.Induction
import Mathlib.Data.List.Nodup

/-! Mappings whose keys are distinct find every pair that they are built from. -/

namespace Joinery

variable {α : Type}

/-- A value that is found under a key stands in the mapping. -/
theorem Entries.mem_of_get? {entries : Entries α} {key : String} {value : α}
    (found : entries.get? key = some value) : (key, value) ∈ entries := by
  -- A lookup goes through the pairs in order and returns one of them.
  induction entries with
  | nil => simp [Entries.get?] at found
  | cons pair rest ih =>
    obtain ⟨k, v⟩ := pair
    by_cases same : key = k
    · subst same
      simp only [Entries.get?, List.lookup_cons_self, Option.some.injEq] at found
      simp [found]
    · have apart : (key == k) = false := by simpa using same
      simp only [Entries.get?, List.lookup_cons, apart] at found
      exact List.mem_cons_of_mem _ (ih found)

/-- Nothing is found under a key that is not there. -/
theorem Entries.get?_eq_none {entries : Entries α} {key : String} (absent : key ∉ entries.keys) :
    entries.get? key = none := by
  -- What is found stands in the list with its key.
  rw [Option.eq_none_iff_forall_ne_some]
  intro value found
  exact absent (List.mem_map.mpr ⟨_, mem_of_get? found, rfl⟩)

/-- A pair of a mapping with distinct keys is found under its key. -/
theorem Entries.get?_of_mem {entries : Entries α} (distinct : entries.keys.Nodup) {key : String}
    {value : α} (member : (key, value) ∈ entries) : entries.get? key = some value := by
  -- No pair before it has the same key.
  induction entries with
  | nil => contradiction
  | cons pair rest ih =>
    obtain ⟨k, v⟩ := pair
    obtain ⟨fresh, distinct⟩ := List.nodup_cons.mp distinct
    rcases List.mem_cons.mp member with same | later
    · cases same
      simp [Entries.get?]
    · have apart : (key == k) = false := by
        refine beq_eq_false_iff_ne.mpr fun same => fresh ?_
        exact same ▸ List.mem_map.mpr ⟨_, later, rfl⟩
      simp only [Entries.get?, List.lookup_cons, apart]
      exact ih distinct later

/-- What is under a key is left when only values under other keys are dropped. -/
theorem Entries.get?_filter (entries : Entries α) {keeps : String → Bool} {key : String}
    (kept : keeps key = true) :
    Entries.get? (entries.filter fun pair => keeps pair.1) key = entries.get? key := by
  induction entries with
  | nil => rfl
  | cons pair rest ih =>
    obtain ⟨name, value⟩ := pair
    rw [List.filter_cons]
    split
    · rw [get?, get?, List.lookup_cons, List.lookup_cons]
      split
      · rfl
      · exact ih
    · rename_i dropped
      -- What is dropped is under another key.
      have apart : (key == name) = false :=
        beq_eq_false_iff_ne.mpr fun same => dropped (same ▸ kept)
      rw [ih, get?, get?, List.lookup_cons, apart]

/-- A new key goes to the end of a mapping. -/
theorem Entries.insert_new {entries : Entries α} {key : String} (fresh : key ∉ entries.keys)
    (value : α) : entries.insert key value = entries ++ [(key, value)] := by
  -- No pair has the key, so the search for it comes to the end.
  induction entries with
  | nil => rfl
  | cons pair rest ih =>
    obtain ⟨k, v⟩ := pair
    simp only [Entries.keys, List.map_cons, List.mem_cons, not_or] at fresh
    have apart : ¬ k = key := fun same => fresh.1 same.symm
    simp only [Entries.insert, apart, if_false, List.cons_append]
    rw [ih fresh.2]

/-- Pairs with distinct keys make up a mapping as they are. -/
theorem Entries.ofPairs_eq_self {pairs : List (String × α)}
    (distinct : (pairs.map Prod.fst).Nodup) : Entries.ofPairs pairs = pairs := by
  -- Pair after pair goes to the end, whatever came before has other keys.
  have fold : ∀ (rest : List (String × α)) (front : Entries α),
      ((front ++ rest).map Prod.fst).Nodup →
        rest.foldl (fun entries pair => entries.insert pair.1 pair.2) front = front ++ rest := by
    intro rest
    induction rest with
    | nil => simp
    | cons pair rest ih =>
      intro front distinct
      obtain ⟨key, value⟩ := pair
      have fresh : key ∉ front.keys := by
        intro inside
        rw [List.map_append] at distinct
        exact (List.nodup_append.mp distinct).2.2 key inside key (by simp) rfl
      rw [List.foldl_cons]
      simp only [Entries.insert_new fresh]
      rw [ih (front ++ [(key, value)]) (by simpa using distinct), List.append_assoc,
        List.singleton_append]
  exact fold pairs [] (by simpa using distinct)

/-- A pair is found in the mapping that it builds, where no pair has another value for its key. -/
theorem Entries.get?_ofPairs {pairs : List (String × α)} {key : String} {value : α}
    (member : (key, value) ∈ pairs) (only : ∀ other, (key, other) ∈ pairs → other = value) :
    (Entries.ofPairs pairs).get? key = some value := by
  -- The last pair decides, and it has the value or another key.
  induction pairs using List.reverseRecOn with
  | nil => contradiction
  | append_singleton front last ih =>
    obtain ⟨name, entered⟩ := last
    rw [ofPairs, List.foldl_append, List.foldl_cons, List.foldl_nil, get?_insert]
    by_cases same : key = name
    · subst same
      rw [if_pos rfl, only entered (by simp)]
    · rw [if_neg same]
      have before : (key, value) ∈ front := by
        rcases List.mem_append.mp member with before | here
        · exact before
        · exact absurd (Prod.mk.inj (List.mem_singleton.mp here)).1 same
      exact ih before fun other inside => only other (List.mem_append_left _ inside)

/-- A value that is found in a mapping built of pairs stands in one of the pairs. -/
theorem Entries.mem_of_get?_ofPairs {pairs : List (String × α)} {key : String}
    {value : α} (found : (Entries.ofPairs pairs).get? key = some value) : (key, value) ∈ pairs := by
  -- The last pair decides, unless it has another key.
  induction pairs using List.reverseRecOn with
  | nil => contradiction
  | append_singleton front pair ih =>
    obtain ⟨last, given⟩ := pair
    rw [ofPairs, List.foldl_append, List.foldl_cons, List.foldl_nil, get?_insert] at found
    split at found
    · rename_i same
      cases found
      simp [same]
    · exact List.mem_append_left _ (ih found)

/-- Of pairs with one key the last one is found in the mapping that they build. -/
theorem Entries.get?_ofPairs_eq_getLast? (pairs : List (String × α)) (key : String) :
    (Entries.ofPairs pairs).get? key = (pairs.filterMap fun (name, value) =>
      if name = key then some value else none).getLast? := by
  -- The induction is on the pairs from the last one on, since the last one is found.
  induction pairs using List.reverseRecOn with
  | nil => rfl
  | append_singleton front pair ih =>
    obtain ⟨name, value⟩ := pair
    rw [ofPairs, List.foldl_append, List.foldl_cons, List.foldl_nil, get?_insert,
      List.filterMap_append]
    by_cases same : name = key
    · simp [same]
    · rw [if_neg (Ne.symm same)]
      simp only [List.filterMap_cons, if_neg same, List.filterMap_nil, List.append_nil]
      exact ih

/-- Two mappings with the same keys in one order, and with related values under them. -/
def Entries.Beside {β : Type} (related : α → β → Prop) (entries : Entries α) (others : Entries β) :
    Prop :=
  List.Forall₂ (fun pair other => other.1 = pair.1 ∧ related pair.2 other.2) entries others

variable {β : Type} {related : α → β → Prop} {entries : Entries α} {others : Entries β}

/-- Setting a key to related values keeps mappings beside each other. -/
theorem Entries.Beside.insert (beside : Beside related entries others) (key : String) {value : α}
    {other : β} (values : related value other) :
    Beside related (entries.insert key value) (others.insert key other) := by
  -- Both keep the place of an old key, and add a new one to the end.
  induction beside with
  | nil => exact .cons ⟨rfl, values⟩ .nil
  | @cons pair paired rest more head tail ih =>
    obtain ⟨k, v⟩ := pair
    obtain ⟨k', v'⟩ := paired
    obtain ⟨rfl, held⟩ : k' = k ∧ related v v' := head
    simp only [Entries.insert]
    split
    · exact .cons ⟨rfl, values⟩ tail
    · exact .cons ⟨rfl, held⟩ ih

/-- So does building them up pair by pair. -/
theorem Entries.Beside.ofPairs (beside : Beside related entries others) :
    Beside related (Entries.ofPairs entries) (Entries.ofPairs others) := by
  -- What is built so far is side by side, and the next two pairs have the same key.
  have fold : ∀ {front : Entries α} {frontToo : Entries β}, Beside related front frontToo →
      Beside related (entries.foldl (fun built pair => built.insert pair.1 pair.2) front)
        (others.foldl (fun built pair => built.insert pair.1 pair.2) frontToo) := by
    induction beside with
    | nil => exact fun front => front
    | cons head _ ih =>
      intro front frontToo same
      simp only [List.foldl_cons, head.1]
      exact ih (same.insert _ head.2)
  exact fold .nil

/-- A key is found in both, with related values, or in neither. -/
theorem Entries.Beside.get? (beside : Beside related entries others) (key : String) :
    Option.Rel related (entries.get? key) (others.get? key) := by
  -- The two are searched in step.
  induction beside with
  | nil => exact .none
  | @cons pair paired rest more head _ ih =>
    obtain ⟨k, v⟩ := pair
    obtain ⟨k', v'⟩ := paired
    obtain ⟨rfl, held⟩ : k' = k ∧ related v v' := head
    rw [Entries.get?, Entries.get?, List.lookup_cons, List.lookup_cons]
    cases key == k' with
    | true => exact .some held
    | false => exact ih

end Joinery
