/-! Sets of characters given by intervals of code points. -/

namespace Joinery

/-- A set of characters as a list of closed intervals of code points. -/
abbrev CharRanges := List (Nat × Nat)

/-- A character belongs to the set when one of the intervals holds its code point. -/
def CharRanges.covers (ranges : CharRanges) (c : Char) : Bool :=
  ranges.any fun (low, high) => low ≤ c.toNat && c.toNat ≤ high

/-- Membership is a question about some interval. -/
theorem CharRanges.covers_iff (ranges : CharRanges) (c : Char) :
    ranges.covers c = true ↔ ∃ range ∈ ranges, range.1 ≤ c.toNat ∧ c.toNat ≤ range.2 := by
  simp [CharRanges.covers]

end Joinery
