import Joinery.Proofs.Value.Identity
import Mathlib.Algebra.Order.Field.Rat
import Mathlib.Algebra.Order.Field.Power

/-! The exact numbers behind binary fractions. -/

namespace Joinery

/-- Powers of two are those of a rational number. -/
theorem cast_powTwo (exponent : Nat) : (powTwo exponent : ℚ) = 2 ^ (exponent : Int) := by
  rw [zpow_natCast]
  exact Nat.cast_pow 2 exponent

/-- A fraction that is scaled by a power of two keeps a positive denominator, and is divided by the power. -/
theorem scaleByTwo_eq (num : Nat) {den : Nat} (positive : 0 < den) (exponent : Int) :
    0 < (scaleByTwo num den exponent).2 ∧
      ((scaleByTwo num den exponent).1 : ℚ) / (scaleByTwo num den exponent).2 =
        num / den / 2 ^ exponent := by
  rw [scaleByTwo]
  -- The power goes to the denominator when its exponent is not negative, to the numerator otherwise.
  split
  · rename_i up
    refine ⟨Nat.mul_pos positive (powTwo_pos _), ?_⟩
    simp only [Nat.cast_mul, cast_powTwo, Int.toNat_of_nonneg up, div_mul_eq_div_div]
  · rename_i down
    refine ⟨positive, ?_⟩
    have whole : 0 ≤ -exponent := by omega
    simp only [Nat.cast_mul, cast_powTwo, Int.toNat_of_nonneg whole, zpow_neg]
    rw [mul_div_right_comm, ← div_eq_mul_inv]

/-- The fraction of a finite number is its mantissa times the power of two. -/
theorem Binary64.fraction_eq (mantissa : Nat) (exponent : Int) :
    0 < (fraction mantissa exponent).2 ∧
      ((fraction mantissa exponent).1 : ℚ) / (fraction mantissa exponent).2 =
        mantissa * 2 ^ exponent := by
  -- The power of two is divided away with the opposite exponent.
  obtain ⟨positive, same⟩ := scaleByTwo_eq mantissa Nat.one_pos (-exponent)
  refine ⟨positive, same.trans ?_⟩
  rw [Nat.cast_one, div_one, zpow_neg, div_inv_eq_mul]

/-- A signed fraction is a whole number exactly when the denominator divides the magnitude into it. -/
theorem signed_div_eq_iff {negative : Bool} {num den : Nat} (positive : 0 < den) {n : Int} :
    num % den = 0 ∧ signed negative (num / den) = n ↔ (signed negative num : ℚ) / den = n := by
  -- Dividing is exact only where multiplying brings the magnitude back.
  have nonzero : (den : ℚ) ≠ 0 := Nat.cast_ne_zero.mpr positive.ne'
  have exact : (signed negative num : ℚ) / den = n ↔ signed negative num = n * den := by
    rw [div_eq_iff nonzero]
    exact_mod_cast Iff.rfl
  rw [exact]
  constructor
  · rintro ⟨divides, rfl⟩
    rw [← signed_mul, Nat.div_mul_cancel (Nat.dvd_of_mod_eq_zero divides)]
  · intro same
    have size : num = n.natAbs * den := by
      have sizes := congrArg Int.natAbs same
      rw [Int.natAbs_mul, Int.natAbs_natCast] at sizes
      rw [← sizes]
      cases negative <;> simp [signed]
    refine ⟨by rw [size, Nat.mul_mod_left], ?_⟩
    rw [size, signed_mul] at same
    rw [size, Nat.mul_div_cancel _ positive]
    exact Int.eq_of_mul_eq_mul_right (by omega) same

/-- The fraction of a finite number has its sign in front. -/
theorem Binary64.signed_fraction (negative : Bool) (mantissa : Nat) (exponent : Int) :
    (signed negative mantissa : ℚ) * 2 ^ exponent =
      signed negative (fraction mantissa exponent).1 / (fraction mantissa exponent).2 := by
  -- A sign in front of the magnitude is one in front of the fraction.
  obtain ⟨-, same⟩ := fraction_eq mantissa exponent
  cases negative
  · simp only [signed, Bool.false_eq_true, if_false, Int.cast_natCast, same]
  · simp only [signed, if_true, Int.cast_neg, Int.cast_natCast, neg_mul, ← same, neg_div]

/-- A finite number is a whole one exactly when it is equal to it. -/
theorem Binary64.toInt?_eq_some_iff {negative : Bool} {mantissa : Nat} {exponent n : Int}
    (held : IsBinary64 mantissa exponent) :
    (finite negative mantissa exponent held).toInt? = some n ↔
      (signed negative mantissa : ℚ) * 2 ^ exponent = n := by
  -- A number is whole when the denominator of its fraction divides the numerator.
  obtain ⟨positive, -⟩ := fraction_eq mantissa exponent
  rw [signed_fraction, ← signed_div_eq_iff positive]
  simp only [toInt?, Option.ite_none_right_eq_some, Option.some.injEq]

end Joinery
