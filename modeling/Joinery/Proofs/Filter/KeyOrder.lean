import Joinery.Proofs.Filter.Rephrasing
import Mathlib.Data.List.Perm.Basic

/-! In which order a document has its keys and operators makes no difference to its filter. -/

namespace Joinery

/-- Two values that are the same but for the order of operators. -/
inductive Value.SameOperators : Value → Value → Prop where
  /-- They do not differ. -/
  | same (value : Value) : Value.SameOperators value value
  /-- The entries of an operator object stand in another order. -/
  | operators {entries others : List (String × Value)} (permuted : others.Perm entries) :
    Value.SameOperators (.map entries) (.map others)

/-- Two lists of entries that are the same but for the order of keys and of operators. -/
def SameKeys (entries others : List (String × Value)) : Prop :=
  ∃ middle : List (String × Value), middle.Perm entries ∧
    List.Forall₂ (fun entry other => other.1 = entry.1 ∧ entry.2.SameOperators other.2) middle others

/-- Two documents that are the same but for the order of keys and of operators, with one cap at most. -/
inductive Value.Reordered : Value → Value → Prop where
  /-- They do not differ. -/
  | same (document : Value) : Value.Reordered document document
  /-- The keys and the operators under them stand in another order. -/
  | keys {entries others : List (String × Value)}
    (single : (entries.filter fun (key, _) => isLimitKey key).length ≤ 1)
    (keys : SameKeys entries others) : Value.Reordered (.map entries) (.map others)

/-- Two filters that are the same but for the order of keys and of operators. -/
structure Filter.Reordered (filter other : Filter) : Prop where
  /-- The same is said about the same fields. -/
  conditions : SameKeys filter.conditions other.conditions
  /-- The caps are the same. -/
  limit : other.limit = filter.limit

/-- Nothing is reordered where nothing differs. -/
theorem Filter.Reordered.refl (filter : Filter) : filter.Reordered filter :=
  ⟨⟨_, .refl _, List.forall₂_same.mpr fun _ _ => ⟨rfl, .same _⟩⟩, rfl⟩

/-- A document has a filter that is related to itself, or no filter. -/
theorem Filter.ofValue_refl {R : Filter → Filter → Prop} (refl : ∀ filter, R filter filter)
    (document : Value) :
    SameOutcome (Option.Rel R) (Filter.ofValue document) (Filter.ofValue document) := by
  -- A document is a filter, is none, or is refused, and the same each time.
  cases Filter.ofValue document with
  | error fault => exact .fault fault
  | ok filter =>
    cases filter with
    | none => exact .success .none
    | some filter => exact .success (.some (refl filter))

/-- Filters with equally many keys say nothing together. -/
theorem Filter.isEmpty_congr {filter other : Filter}
    (same : other.conditions.length = filter.conditions.length) : other.isEmpty = filter.isEmpty := by
  -- A filter is empty when it has no keys to count.
  rw [Filter.isEmpty, Filter.isEmpty, Bool.eq_iff_iff, List.isEmpty_iff_length_eq_zero,
    List.isEmpty_iff_length_eq_zero, same]

variable {entries others : List (String × Value)} {field : String} {entity : EntitySchema}

/-- The order of operators is the same from either side. -/
theorem Value.SameOperators.symm {value other : Value} (same : value.SameOperators other) :
    other.SameOperators value := by
  -- A permutation can be undone.
  cases same with
  | same => exact .same _
  | operators permuted => exact .operators permuted.symm

/-- So is the order of keys. -/
theorem SameKeys.symm (same : SameKeys entries others) : SameKeys others entries := by
  obtain ⟨middle, permuted, aligned⟩ := same
  -- Reordering first and changing operators then is the same as the other way round.
  obtain ⟨changed, alignedToo, permutedToo⟩ := List.perm_comp_forall₂ permuted.symm aligned
  exact ⟨changed, permutedToo, alignedToo.flip.imp fun _ _ head => ⟨head.1.symm, head.2.symm⟩⟩

/-- What is kept by its key alone is kept in both orders. -/
theorem SameKeys.filter (same : SameKeys entries others) (kept : String → Bool) :
    SameKeys (entries.filter fun (key, _) => kept key) (others.filter fun (key, _) => kept key) := by
  obtain ⟨middle, permuted, aligned⟩ := same
  -- Keys stay as they are when operators move, so the same entries are kept on both sides.
  refine ⟨_, permuted.filter _, List.rel_filter (fun entry other head => ?_) aligned⟩
  dsimp only
  rw [head.1]

/-- What is read off the keys alone is the same up to order. -/
theorem SameKeys.filterMap_perm {α : Type} (same : SameKeys entries others)
    (read : String → Option α) :
    (others.filterMap fun (key, _) => read key).Perm (entries.filterMap fun (key, _) => read key) := by
  -- Only the values differ after the keys have been moved, and these are not read.
  obtain ⟨middle, permuted, aligned⟩ := same
  have keys : others.filterMap (fun (key, _) => read key) =
      middle.filterMap fun (key, _) => read key :=
    filterMap_of_aligned (fun _ _ head => congrArg read head.1) aligned
  rw [keys]
  exact permuted.filterMap _

/-- Operators set the same conditions in whatever order they stand. -/
theorem readOperators_perm {conditions : List Condition} (permuted : others.Perm entries)
    (read : readOperators field entries = .ok conditions) :
    ∃ changed, readOperators field others = .ok changed ∧ changed.Perm conditions := by
  obtain ⟨found, aligned, rfl⟩ := readOperators_ok_iff.mp read
  -- What an operator sets moves along with it.
  obtain ⟨moved, alignedToo, same⟩ := List.perm_comp_forall₂ permuted aligned
  exact ⟨_, readOperators_ok_iff.mpr ⟨moved, alignedToo, rfl⟩, same.flatMap_right _⟩

/-- So do values that are the same but for the order of operators. -/
theorem readField_sameOperators {value other : Value} {conditions : List Condition}
    (same : value.SameOperators other) (read : readField field value = .ok conditions) :
    ∃ changed, readField field other = .ok changed ∧ changed.Perm conditions := by
  -- The order of operators is the order of the conditions.
  cases same with
  | same => exact ⟨conditions, read, .refl _⟩
  | operators permuted => exact readOperators_perm permuted read

/-- Entries set the same conditions in whatever order their keys and operators stand. -/
theorem SameKeys.readConditions {reading : Reading} (same : SameKeys entries others)
    (read : readConditions entity entries = .ok reading) :
    ∃ changed, Joinery.readConditions entity others = .ok changed ∧
      changed.conditions.Perm reading.conditions := by
  obtain ⟨middle, permuted, aligned⟩ := same
  obtain ⟨found, each, collected⟩ := readConditions_ok_iff.mp ⟨reading.rejected, read⟩
  obtain ⟨moved, eachToo, sameFound⟩ := List.perm_comp_forall₂ permuted each
  -- Under each key the same operators are read.
  have own : ∃ results, List.Forall₂ (fun entry own => entity.readEntry entry = .ok own) others
      results ∧ List.Forall₂ (fun result own : List Condition => result.Perm own) results moved := by
    clear each collected sameFound read permuted
    induction aligned generalizing moved with
    | nil =>
      cases eachToo
      exact ⟨[], .nil, .nil⟩
    | @cons entry other _ _ head _ ih =>
      cases eachToo with
      | @cons _ conditions _ _ first rest =>
        obtain ⟨results, later, sorted⟩ := ih _ rest
        have readToo : ∃ changed, entity.readEntry other = .ok changed ∧ changed.Perm conditions := by
          rw [EntitySchema.readEntry] at first ⊢
          rw [head.1]
          split at first
          · cases first
            exact ⟨[], rfl, .refl _⟩
          · exact readField_sameOperators head.2 first
        obtain ⟨changed, firstToo, perm⟩ := readToo
        exact ⟨changed :: results, .cons firstToo later, .cons perm sorted⟩
  -- So the conditions come in another order only, within an entry and among the entries.
  obtain ⟨results, eachOther, sorted⟩ := own
  obtain ⟨rejected, readToo⟩ := readConditions_ok_iff.mpr ⟨results, eachOther, rfl⟩
  refine ⟨_, readToo, ?_⟩
  rw [collected]
  exact (List.Perm.flatten_congr sorted).trans sameFound.flatten

/-- Reordered filters are so from either side. -/
theorem Filter.Reordered.symm {filter changed : Filter} (reordered : filter.Reordered changed) :
    changed.Reordered filter :=
  ⟨reordered.conditions.symm, reordered.limit.symm⟩

/-- A reordered filter is the filter in other words, for every entity. -/
theorem Filter.Reordered.rephrases {filter other : Filter} (reordered : filter.Reordered other)
    (entity : EntitySchema) : entity.Rephrases (some filter) (some other) where
  read := by
    change LikeOutcome _ _ (Joinery.readConditions entity filter.conditions)
      (Joinery.readConditions entity other.conditions)
    cases read : Joinery.readConditions entity filter.conditions with
    | ok reading =>
      obtain ⟨changed, readToo, permuted⟩ := reordered.conditions.readConditions read
      rw [readToo]
      exact .success permuted
    | error fault =>
      -- What can be read in the other order could have been read in this one.
      cases readToo : Joinery.readConditions entity other.conditions with
      | error other => exact .fault trivial
      | ok changed =>
        obtain ⟨reading, found, _⟩ := reordered.conditions.symm.readConditions readToo
        cases read.symm.trans found
  closed := reordered.conditions.filterMap_perm fun key =>
    if entity.opens key then none else some (entity.name ++ "." ++ key)
  limit := reordered.limit

/-- A filter says nothing in one order when it says nothing in the other. -/
theorem Filter.Reordered.isEmpty {filter other : Filter} (reordered : filter.Reordered other) :
    other.isEmpty = filter.isEmpty := by
  -- Moving keys and changing what stands under them leaves as many as there were.
  obtain ⟨middle, permuted, aligned⟩ := reordered.conditions
  exact Filter.isEmpty_congr (aligned.length_eq.symm.trans permuted.length_eq)

/-- The cap of one entry, when it is one. -/
def capOf (entry : String × Value) : Option Int :=
  match entry.2 with
  | .int n => if isLimitKey entry.1 then some n else none
  | _ => none

/-- Where there is one cap at most, it is found in whatever order the keys stand. -/
theorem SameKeys.limitOf (same : SameKeys entries others)
    (single : (entries.filter fun (key, _) => isLimitKey key).length ≤ 1) :
    limitOf others = limitOf entries := by
  obtain ⟨middle, permuted, aligned⟩ := same
  change (others.filterMap capOf).getLast? = (entries.filterMap capOf).getLast?
  have caps : others.filterMap capOf = middle.filterMap capOf := by
    -- An operator object is no cap, in whatever order its operators stand.
    refine filterMap_of_aligned (fun entry other head => ?_) aligned
    obtain ⟨key, value⟩ := entry
    obtain ⟨key', value'⟩ := other
    obtain ⟨rfl, operators⟩ := head
    cases operators <;> rfl
  -- Every cap stands under a key for it, and there is one such key at most.
  have few : (entries.filterMap capOf).length ≤ 1 := by
    have limits : entries.filterMap capOf =
        (entries.filter fun (key, _) => isLimitKey key).filterMap capOf := by
      rw [List.filterMap_filter]
      refine List.filterMap_congr fun (key, value) _ => ?_
      cases value <;> simp [capOf]
    rw [limits]
    exact Nat.le_trans (List.length_filterMap_le _ _) single
  have moved := permuted.filterMap capOf
  rw [caps]
  cases found : entries.filterMap capOf with
  | nil =>
    rw [found] at moved
    rw [moved.eq_nil]
  | cons cap rest =>
    rw [found] at few moved
    obtain rfl : rest = [] := by simpa using few
    rw [List.perm_singleton.mp moved]

/-- The filters of reordered documents are reordered, or none is a filter. -/
theorem Value.Reordered.filters {document other : Value} (reordered : document.Reordered other) :
    SameOutcome (Option.Rel Filter.Reordered) (Filter.ofValue document) (Filter.ofValue other) := by
  -- Besides the entries only the cap is read off a document, and it is set once.
  cases reordered with
  | same => exact Filter.ofValue_refl .refl document
  | keys single keys =>
    exact .success (.some ⟨keys.filter fun key => !isLimitKey key, keys.limitOf single⟩)

end Joinery
