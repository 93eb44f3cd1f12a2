import Joinery.Database.Evaluation

/-! The orders of the database are total and transitive: cells, sort keys and ranking terms. -/

namespace Joinery

open Std (OrientedCmp TransCmp TransOrd)

/-- A power of two is positive. -/
theorem powTwo_pos (exponent : Nat) : 0 < powTwo exponent := by
  -- The base is positive, whatever the exponent.
  exact Nat.pow_pos (by decide)

/-- Powers of two multiply by adding their exponents. -/
theorem powTwo_add (a b : Nat) : powTwo (a + b) = powTwo a * powTwo b := by
  -- This is the law of exponents behind the plain name.
  exact Nat.pow_add 2 a b

/-- A common positive factor does not change a comparison of whole numbers. -/
theorem compare_mul_right (a b : Int) {factor : Int} (positive : 0 < factor) :
    compare (a * factor) (b * factor) = compare a b := by
  -- Both the order and the equality of the products are those of the numbers.
  have less : a * factor < b * factor ↔ a < b := Int.mul_lt_mul_right positive
  have same : a * factor = b * factor ↔ a = b := Int.mul_eq_mul_right_iff (by omega)
  simp only [compare, compareOfLessAndEq, less, same]

/-- Two scaled numbers may be compared on any grid that is fine enough for both. -/
theorem compareScaled_grid (m n : Int) {e f : Int} (grid : Int) (left : grid ≤ e)
    (right : grid ≤ f) :
    compareScaled m e n f =
      compare (m * powTwo (e - grid).toNat) (n * powTwo (f - grid).toNat) := by
  -- The finer grid multiplies both numbers by the same power of two.
  have split (x : Int) (least : min e f ≤ x) :
      (x - grid).toNat = (x - min e f).toNat + (min e f - grid).toNat := by omega
  rw [split e (Int.min_le_left e f), split f (Int.min_le_right e f), powTwo_add, powTwo_add]
  simp only [Int.natCast_mul, ← Int.mul_assoc]
  rw [compare_mul_right _ _ (Int.natCast_pos.mpr (powTwo_pos _))]
  rfl

/-- The comparison of scaled numbers is that of their numerators on one grid. -/
theorem compareScaled_trans {m n k : Int} {e f g : Int}
    (first : (compareScaled m e n f).isLE) (second : (compareScaled n f k g).isLE) :
    (compareScaled m e k g).isLE := by
  -- The smallest of the three exponents is a grid for all of them.
  let grid := min e (min f g)
  rw [compareScaled_grid _ _ grid (by omega) (by omega)] at first second ⊢
  exact TransOrd.isLE_trans first second

/-- Comparing scaled numbers the other way round gives the opposite. -/
theorem compareScaled_swap (m n : Int) (e f : Int) :
    compareScaled m e n f = (compareScaled n f m e).swap := by
  -- Both comparisons use the smaller of the two exponents.
  rw [compareScaled_grid n m _ (Int.min_le_right e f) (Int.min_le_left e f), compareScaled]
  exact Std.OrientedOrd.eq_swap

instance : OrientedCmp Magnitude.order where
  eq_swap {a b} := by
    cases a <;> cases b <;> first | rfl | exact compareScaled_swap _ _ _ _

instance : TransCmp Magnitude.order where
  isLE_trans {a b c} first second := by
    cases a <;> cases b <;> cases c <;>
      first | exact compareScaled_trans first second | contradiction | rfl

instance : OrientedCmp CellPlace.order where
  eq_swap {a b} := by
    cases a <;> cases b <;>
      first
        | rfl
        | exact @OrientedCmp.eq_swap _ Magnitude.order _ _ _
        | exact Std.OrientedOrd.eq_swap

instance : TransCmp CellPlace.order where
  isLE_trans {a b c} first second := by
    cases a <;> cases b <;> cases c <;>
      first
        | exact @TransCmp.isLE_trans _ Magnitude.order _ _ _ _ first second
        | exact TransOrd.isLE_trans first second
        | contradiction
        | rfl

instance : TransCmp Cell.order where
  eq_swap {a b} := @OrientedCmp.eq_swap _ CellPlace.order _ a.place b.place
  isLE_trans {a b c} := @TransCmp.isLE_trans _ CellPlace.order _ a.place b.place c.place

/-- Whether two cells have the same place does not depend on which one comes first. -/
theorem Cell.same_comm (a b : Cell) : a.same b = b.same a := by
  -- Swapping the cells swaps the order, which keeps equality.
  rw [Cell.same, Cell.same, @OrientedCmp.eq_swap _ Cell.order _ a b]
  cases b.order a <;> rfl

/-- Lists of cells are compared by their first difference. -/
theorem orderCells_eq_compareLex : orderCells = List.compareLex Cell.order := by
  -- The recursion of both goes along the two lists.
  funext as bs
  induction as generalizing bs with
  | nil => cases bs <;> rfl
  | cons a as ih =>
    cases bs with
    | nil => rfl
    | cons b bs =>
      rw [orderCells, List.compareLex_cons_cons, ih]

instance : TransCmp orderCells := by
  rw [orderCells_eq_compareLex]
  infer_instance

/-- A term compares rows by cells, in one of the two directions. -/
instance (relation : Relation) (term : OrderTerm) : TransCmp (term.compare relation) where
  eq_swap {a b} := by
    simp only [OrderTerm.compare]
    rw [@OrientedCmp.eq_swap _ Cell.order _ (relation.cell term.column a)]
    cases term.descending <;> simp
  isLE_trans {a b c} := by
    simp only [OrderTerm.compare]
    cases term.descending with
    | false => exact @TransCmp.isLE_trans _ Cell.order _ _ _ _
    | true =>
      simp only [if_true, ← @OrientedCmp.eq_swap _ Cell.order]
      exact fun first second => @TransCmp.isLE_trans _ Cell.order _ _ _ _ second first

instance (relation : Relation) (terms : List OrderTerm) :
    TransCmp (compareTerms relation terms) := by
  induction terms with
  | nil => exact { eq_swap := rfl, isLE_trans := fun _ _ => rfl }
  | cons term rest ih =>
    exact inferInstanceAs
      (TransCmp (compareLex (term.compare relation) (compareTerms relation rest)))

end Joinery
