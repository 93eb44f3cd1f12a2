import Joinery.Schema.Basic
import Mathlib.Data.List.Basic

/-! Labels of result columns tell fields apart unless the separator can be read at two places. -/

namespace Joinery

/--
Whether the label of a field can be read as one of a field of another entity with a longer key.

The separator ends one character further, or it stands again inside the longer key and in the field.
-/
inductive EntitySchema.Overlaps (entity : EntitySchema) (field : String) (other : EntitySchema)
    (tail : String) : Prop where
  /-- An underscore of the separator belongs to the longer key, and one of the field to the separator. -/
  | shifted (key : other.key = entity.key ++ "_") (start : field = "_" ++ tail)
  /-- The longer key goes on after the separator, and so does the field until its own separator. -/
  | repeated (middle : String) (key : other.key = entity.key ++ columnSeparator ++ middle)
    (start : field = middle ++ columnSeparator ++ tail)

variable {entity other : EntitySchema} {field tail : String}

/-- Fields that overlap have one label. -/
theorem EntitySchema.Overlaps.columnLabel_eq (overlap : entity.Overlaps field other tail) :
    entity.columnLabel field = other.columnLabel tail := by
  -- Both labels are one text, split at one underscore or at another.
  cases overlap with
  | shifted key start =>
    have moved : columnSeparator ++ ("_" ++ tail) = "_" ++ (columnSeparator ++ tail) := by
      rw [← String.append_assoc, ← String.append_assoc]
      rfl
    rw [columnLabel, columnLabel, key, start, String.append_assoc, moved]
    simp only [String.append_assoc]
  | repeated middle key start =>
    rw [columnLabel, columnLabel, key, start]
    simp only [String.append_assoc]

/-- Fields overlap only where the keys are different. -/
theorem EntitySchema.Overlaps.key_ne (overlap : entity.Overlaps field other tail) :
    entity.key ≠ other.key := by
  -- The key of the other entity is longer.
  intro same
  have texts := congrArg String.toList same
  cases overlap with
  | shifted key start =>
    rw [key, String.toList_append, List.self_eq_append_right] at texts
    exact absurd texts (by decide)
  | repeated middle key start =>
    rw [key, String.append_assoc, String.toList_append, List.self_eq_append_right,
      String.toList_append] at texts
    exact absurd (List.append_eq_nil_iff.mp texts).1 (by decide)

/-- A label that is also read with a longer key makes the fields overlap, unless the key is the same. -/
theorem EntitySchema.overlaps_of_longer {rest : List Char}
    (longer : other.key.toList = entity.key.toList ++ rest)
    (same : '_' :: '_' :: field.toList = rest ++ '_' :: '_' :: tail.toList) :
    (entity.key = other.key ∧ field = tail) ∨ entity.Overlaps field other tail := by
  -- The separator of the shorter key covers none, one or both of the characters that are added.
  rcases rest with _ | ⟨first, _ | ⟨second, middle⟩⟩
  · have key : entity.key = other.key := by
      rw [← String.toList_inj, longer, List.append_nil]
    have name : field = tail := by
      rw [← String.toList_inj]
      simpa using same
    exact .inl ⟨key, name⟩
  · obtain ⟨rfl, start⟩ : '_' = first ∧ field.toList = '_' :: tail.toList := by simpa using same
    have key : other.key = entity.key ++ "_" := by
      rw [← String.toList_inj, longer, String.toList_append]
      rfl
    have name : field = "_" ++ tail := by
      rw [← String.toList_inj, start, String.toList_append]
      rfl
    exact .inr (.shifted key name)
  -- Two characters of the longer key are its separator, and stand in the field of the shorter one.
  · obtain ⟨rfl, rfl, start⟩ : '_' = first ∧ '_' = second ∧
        field.toList = middle ++ '_' :: '_' :: tail.toList := by simpa using same
    have key : other.key = entity.key ++ columnSeparator ++ String.ofList middle := by
      rw [← String.toList_inj, longer, String.toList_append, String.toList_append,
        String.toList_ofList, List.append_assoc]
      rfl
    have name : field = String.ofList middle ++ columnSeparator ++ tail := by
      rw [← String.toList_inj, start, String.toList_append, String.toList_append,
        String.toList_ofList, List.append_assoc]
      rfl
    exact .inr (.repeated (String.ofList middle) key name)

/-- Two labels are the same exactly when the fields are, or when they overlap one way or the other. -/
theorem EntitySchema.columnLabel_eq_iff : entity.columnLabel field = other.columnLabel tail ↔
    (entity.key = other.key ∧ field = tail) ∨ entity.Overlaps field other tail ∨
      other.Overlaps tail entity field := by
  constructor
  · intro same
    have spelled (owner : EntitySchema) (name : String) : (owner.columnLabel name).toList =
        owner.key.toList ++ '_' :: '_' :: name.toList := by
      rw [columnLabel, String.toList_append, String.toList_append, List.append_assoc]
      rfl
    have texts := congrArg String.toList same
    rw [spelled, spelled] at texts
    -- One of the two keys begins with the other one.
    rcases List.append_eq_append_iff.mp texts with ⟨rest, longer, ends⟩ | ⟨rest, longer, ends⟩
    · rcases overlaps_of_longer longer ends with equal | overlap
      · exact .inl equal
      · exact .inr (.inl overlap)
    · rcases overlaps_of_longer longer ends with ⟨key, name⟩ | overlap
      · exact .inl ⟨key.symm, name.symm⟩
      · exact .inr (.inr overlap)
  · rintro (⟨key, rfl⟩ | overlap | overlap)
    · rw [columnLabel, columnLabel, key]
    · exact overlap.columnLabel_eq
    · exact overlap.columnLabel_eq.symm

end Joinery
