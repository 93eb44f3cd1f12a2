/-! Mappings that remember the order in which their keys came. -/

namespace Joinery

/-- A mapping from names, in the order in which the names came first. -/
abbrev Entries (α : Type) := List (String × α)

/-- The value under a key. -/
def Entries.get? {α : Type} (entries : Entries α) (key : String) : Option α :=
  entries.lookup key

/-- Whether the mapping has a key. -/
def Entries.has {α : Type} (entries : Entries α) (key : String) : Bool :=
  entries.any (·.1 == key)

/-- The keys in order. -/
def Entries.keys {α : Type} (entries : Entries α) : List String :=
  entries.map Prod.fst

/-- Sets a key: a new one goes to the end, an old one keeps its place. -/
def Entries.insert {α : Type} (entries : Entries α) (key : String) (value : α) : Entries α :=
  match entries with
  | [] => [(key, value)]
  | (k, v) :: rest => if k = key then (k, value) :: rest else (k, v) :: insert rest key value

/-- The mapping that a list of pairs builds up. -/
def Entries.ofPairs {α : Type} (pairs : List (String × α)) : Entries α :=
  pairs.foldl (fun entries (key, value) => entries.insert key value) []

/-- The mapping with every value changed. -/
def Entries.mapValues {α β : Type} (entries : Entries α) (change : α → β) : Entries β :=
  entries.map fun (key, value) => (key, change value)

/-- A key that was set is found. -/
theorem Entries.get?_insert {α : Type} (entries : Entries α) (key other : String) (value : α) :
    (entries.insert key value).get? other = if other = key then some value else entries.get? other := by
  -- The key is set at its first place or behind all entries, so every other key keeps its own place.
  induction entries with
  | nil =>
    by_cases found : other = key
    · simp [insert, get?, found]
    · have apart : (other == key) = false := by simpa using found
      simp [insert, get?, List.lookup_cons, found, apart]
  | cons pair rest ih =>
    obtain ⟨k, v⟩ := pair
    simp only [get?] at ih
    by_cases same : k = key
    · subst same
      by_cases found : other = k
      · simp [insert, get?, found]
      · have apart : (other == k) = false := by simpa using found
        simp [insert, get?, List.lookup_cons, found, apart]
    · by_cases found : other = k
      · subst found
        simp [insert, get?, same]
      · have apart : (other == k) = false := by simpa using found
        simp [insert, get?, same, List.lookup_cons, apart, ih]

/-- Setting a key adds it to the end unless it is there already. -/
theorem Entries.keys_insert {α : Type} (entries : Entries α) (key : String) (value : α) :
    (entries.insert key value).keys =
      if key ∈ entries.keys then entries.keys else entries.keys ++ [key] := by
  -- A key that is found keeps its place, and only one that is missing reaches the end.
  induction entries with
  | nil => simp [insert, keys]
  | cons pair rest ih =>
    obtain ⟨k, v⟩ := pair
    simp only [keys] at ih
    by_cases same : k = key
    · simp [insert, keys, same]
    · simp only [insert, keys, same, if_false, List.map_cons, ih, List.mem_cons]
      have other : ¬ key = k := fun h => same h.symm
      by_cases inside : key ∈ rest.map Prod.fst <;> simp [inside, other]

end Joinery
