import Joinery.Value.Basic

/-! Whether two values are equal can be decided, and so can statements about results. -/

namespace Joinery

mutual

/-- Whether two values are the same in kind and content. -/
def Value.same : Value → Value → Bool
  | .null, .null => true
  | .bool a, .bool b => a == b
  | .int a, .int b => a == b
  | .float a, .float b => a == b
  | .decimal a, .decimal b => a == b
  | .text a, .text b => a == b
  | .moment a, .moment b => a == b
  | .date a, .date b => a == b
  | .list as, .list bs => Value.sameItems as bs
  | .map as, .map bs => Value.sameEntries as bs
  | _, _ => false

/-- Whether two lists hold the same values. -/
def Value.sameItems : List Value → List Value → Bool
  | [], [] => true
  | a :: as, b :: bs => a.same b && Value.sameItems as bs
  | _, _ => false

/-- Whether two mappings hold the same values under the same names. -/
def Value.sameEntries : List (String × Value) → List (String × Value) → Bool
  | [], [] => true
  | (k, a) :: as, (l, b) :: bs => k == l && a.same b && Value.sameEntries as bs
  | _, _ => false

end

mutual

/-- Values that are the same are equal. -/
theorem Value.same_iff (a b : Value) : a.same b = true ↔ a = b := by
  -- Values of different kinds are neither.
  cases a <;> cases b <;>
    simp [Value.same, Value.sameItems_iff, Value.sameEntries_iff]

/-- Lists that hold the same values are equal. -/
theorem Value.sameItems_iff (as bs : List Value) : Value.sameItems as bs = true ↔ as = bs := by
  -- The lists are gone through side by side.
  cases as with
  | nil => cases bs <;> simp [Value.sameItems]
  | cons a as => cases bs <;> simp [Value.sameItems, Value.same_iff, Value.sameItems_iff as]

/-- Mappings that hold the same values under the same names are equal. -/
theorem Value.sameEntries_iff (as bs : List (String × Value)) :
    Value.sameEntries as bs = true ↔ as = bs := by
  -- The mappings are gone through side by side.
  cases as with
  | nil => cases bs <;> simp [Value.sameEntries]
  | cons a as =>
    obtain ⟨key, value⟩ := a
    cases bs with
    | nil => simp [Value.sameEntries]
    | cons b bs =>
      obtain ⟨other, its⟩ := b
      simp [Value.sameEntries, Value.same_iff value, Value.sameEntries_iff as]

end

instance : DecidableEq Value := fun a b => decidable_of_iff _ (Value.same_iff a b)

end Joinery
