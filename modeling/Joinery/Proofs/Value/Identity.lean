import Joinery.Database.CellValue
import Joinery.Proofs.Database.Order
import Joinery.Value.Identity
import Mathlib.Algebra.Group.Nat.Defs

/-! Numbers of one identity are equal, in whatever form they are written. -/

namespace Joinery

/-- What is left of a number and the factors that were divided out make up the number. -/
theorem stripFactor_mul (factor : Nat) (large : 1 < factor) (n : Nat) :
    (stripFactor factor large n).1 * factor ^ (stripFactor factor large n).2 = n := by
  -- Each division takes out one factor.
  induction n using stripFactor.induct factor large with
  | case1 n divides core count equal ih =>
    rw [stripFactor, dif_pos divides]
    simp only [equal] at ih ⊢
    rw [Nat.pow_succ, ← Nat.mul_assoc, ih]
    exact Nat.div_mul_cancel (Nat.dvd_of_mod_eq_zero divides.2)
  | case2 n divides =>
    rw [stripFactor, dif_neg divides]
    simp

/-- The sign of a product is that of its signed factor. -/
theorem signed_mul (negative : Bool) (a b : Nat) :
    signed negative (a * b) = signed negative a * b := by
  -- A negative sign moves out of the product.
  cases negative with
  | false => exact Int.natCast_mul a b
  | true => simp only [signed, if_true, Int.natCast_mul, Int.neg_mul]

/-- Signed magnitudes are equal when sign and magnitude are, zero aside. -/
theorem signed_inj {s t : Bool} {m n : Nat} (positive : 0 < m) (same : signed s m = signed t n) :
    s = t ∧ m = n := by
  -- A sign can only be lost at zero.
  unfold signed at same
  cases s <;> cases t <;> simp only [if_true, Bool.false_eq_true, if_false] at same <;> simp <;> omega

/-- A whole number is its size with its sign. -/
theorem signed_natAbs (n : Int) : signed (decide (n < 0)) n.natAbs = n := by
  -- The sign is negative exactly below zero.
  by_cases below : n < 0
  · simp only [signed, below, decide_true, if_true]
    omega
  · simp only [signed, below, decide_false, Bool.false_eq_true, if_false]
    omega

/-- Numbers that are a core times a power of two are equal when core and total power agree. -/
theorem compareScaled_of_core {core : Int} {a b : Nat} {e f : Int} (powers : e + a = f + b) :
    compareScaled (core * powTwo a) e (core * powTwo b) f = .eq := by
  -- On a grid below both exponents the two numerators are one number.
  rw [compareScaled_grid _ _ (min e f) (Int.min_le_left e f) (Int.min_le_right e f)]
  have total : a + (e - min e f).toNat = b + (f - min e f).toNat := by omega
  rw [Int.mul_assoc, Int.mul_assoc, ← Int.natCast_mul, ← Int.natCast_mul, ← powTwo_add,
    ← powTwo_add, total]
  exact Std.ReflOrd.compare_self

/-- Scaled numbers of one identity have one place on the line. -/
theorem compareScaled_of_identity {a b : Bool} {m n : Nat} {e f : Int}
    (same : Identity.ofScaled a m e 0 = Identity.ofScaled b n f 0) :
    compareScaled (signed a m) e (signed b n) f = .eq := by
  -- The core and the powers of two and five determine a number that is not zero.
  have zero (negative : Bool) : signed negative 0 = 0 := by cases negative <;> rfl
  have two (k : Nat) := stripFactor_mul 2 (by decide) k
  have five (k : Nat) := stripFactor_mul 5 (by decide) k
  have cored (k : Nat) (positive : k ≠ 0) :
      (stripFactor 5 (by decide) (stripFactor 2 (by decide) k).1).1 ≠ 0 := by
    intro none
    have odd := five (stripFactor 2 (by decide) k).1
    rw [none, Nat.zero_mul] at odd
    exact positive (by rw [← two k, ← odd, Nat.zero_mul])
  simp only [Identity.ofScaled] at same
  split at same
  · rename_i none
    split at same
    · rename_i none'
      subst none none'
      rw [zero, zero]
      simp only [compareScaled, Int.zero_mul]
      exact Std.ReflOrd.compare_self
    · rename_i some
      simp only [Identity.number.injEq] at same
      exact absurd same.2.1.symm (cored n some)
  -- Neither is zero, so the cores and the powers are compared.
  · rename_i some
    split at same
    · simp only [Identity.number.injEq] at same
      exact absurd same.2.1 (cored m some)
    · simp only [Identity.number.injEq] at same
      obtain ⟨rfl, core, twos, fives⟩ := same
      have odd : (stripFactor 2 (by decide) m).1 = (stripFactor 2 (by decide) n).1 := by
        rw [← five (stripFactor 2 (by decide) m).1, core, show
          (stripFactor 5 (by decide) (stripFactor 2 (by decide) m).1).2 =
            (stripFactor 5 (by decide) (stripFactor 2 (by decide) n).1).2 by omega, five]
      rw [← two m, ← two n, odd, signed_mul, signed_mul]
      exact compareScaled_of_core twos

/-- Whether a cell can tell rows apart: nothing cannot, and neither can what is no number. -/
def Cell.identifies : Cell → Bool
  | .null => false
  | .real .nan => false
  | _ => true

/-- Finite numbers have the identity of numbers. -/
theorem Identity.ofScaled_eq_number (negative : Bool) (magnitude : Nat) (twos fives : Int) :
    ∃ sign core two five, ofScaled negative magnitude twos fives = .number sign core two five := by
  -- Zero has one of its own, and every other number has its core.
  simp only [ofScaled]
  split
  · exact ⟨_, _, _, _, rfl⟩
  · exact ⟨_, _, _, _, rfl⟩

/-- What tells rows apart is a finite number, one of the infinities, or a text. -/
theorem Cell.identifies_cases {cell : Cell} (usable : cell.identifies = true) :
    (∃ negative magnitude exponent,
      cell.toValue.distinction = .by (.ofScaled negative magnitude exponent 0) ∧
        cell.place = .number (.finite (signed negative magnitude) exponent)) ∨
      (∃ negative, cell = .real (.infinite negative)) ∨ ∃ s, cell = .text s := by
  -- A whole number is its size with its sign.
  cases cell with
  | null => contradiction
  | integer n => exact .inl ⟨decide (n < 0), n.natAbs, 0, rfl, by rw [signed_natAbs]; rfl⟩
  | real x =>
    cases x with
    | nan => contradiction
    | infinite negative => exact .inr (.inl ⟨negative, rfl⟩)
    | finite negative mantissa exponent _ => exact .inl ⟨negative, mantissa, exponent, rfl, rfl⟩
  | text s => exact .inr (.inr ⟨s, rfl⟩)

/-- Cells that become values of one identity have one place. -/
theorem Cell.same_of_distinction {a b : Cell} (usableA : a.identifies = true)
    (usableB : b.identifies = true) (same : a.toValue.distinction = b.toValue.distinction) :
    a.same b = true := by
  -- Numbers, infinities and texts never share an identity.
  rcases identifies_cases usableA with ⟨_, m, e, identity, place⟩ | ⟨_, rfl⟩ | ⟨s, rfl⟩ <;>
    rcases identifies_cases usableB with ⟨_, n, f, identity', place'⟩ | ⟨_, rfl⟩ | ⟨t, rfl⟩
  · rw [identity, identity'] at same
    rw [Cell.same, Cell.order, place, place']
    exact beq_iff_eq.mpr (compareScaled_of_identity (Distinction.by.inj same))
  · obtain ⟨_, _, _, _, number⟩ := Identity.ofScaled_eq_number _ m e 0
    rw [identity, number] at same
    simp [toValue, Value.distinction] at same
  · obtain ⟨_, _, _, _, number⟩ := Identity.ofScaled_eq_number _ m e 0
    rw [identity, number] at same
    simp [toValue, Value.distinction] at same
  · obtain ⟨_, _, _, _, number⟩ := Identity.ofScaled_eq_number _ n f 0
    rw [identity', number] at same
    simp [toValue, Value.distinction] at same
  · cases same
    exact beq_iff_eq.mpr (@Std.ReflCmp.compare_self _ Cell.order _ _)
  · simp [toValue, Value.distinction] at same
  · obtain ⟨_, _, _, _, number⟩ := Identity.ofScaled_eq_number _ n f 0
    rw [identity', number] at same
    simp [toValue, Value.distinction] at same
  · simp [toValue, Value.distinction] at same
  · cases same
    exact beq_iff_eq.mpr (@Std.ReflCmp.compare_self _ Cell.order _ _)

end Joinery
