import Joinery.Plan.Basic
import Joinery.Proofs.Outcome

/-! The cap on joined rows is positive, whatever whole number a query asks for. -/

namespace Joinery

/-- Whether a value is a cap as it is declared: a whole number, or none. -/
def Value.isDeclaredCap : Value → Bool
  | .null | .bool _ | .int _ => true
  | _ => false

/-- A whole number that must not exceed another one is the smaller of the two. -/
theorem atMost_int (n bound : Int) : atMost (.int n) bound = .int (min n bound) := by
  -- The bound takes the place of a larger number.
  simp only [atMost, Value.exceeds?, Option.some.injEq, decide_eq_true_eq]
  split
  · rw [Int.min_eq_right (by omega)]
  · rw [Int.min_eq_left (by omega)]

/-- Truth stays as it is under a positive bound. -/
theorem atMost_true {bound : Int} (positive : 0 < bound) :
    atMost (.bool true) bound = .bool true := by
  -- It counts as one.
  simp only [atMost, Value.exceeds?, Option.some.injEq, decide_eq_true_eq, if_true]
  exact if_neg (by omega)

variable {registry : Registry} {query : Query} {limit : Value} {cap : Int}

/-- A planned cap is what the registry allows, as a whole number that can be written. -/
theorem Query.plannedCap_ok (planned : query.plannedCap registry = .ok (limit, cap)) :
    registry.rowLimit query.maxRows = .ok limit ∧ limit.toWhole = .ok cap ∧
      checkWritable cap = .ok () := by
  -- The row limit is bounded first, then converted, and then it has to be writable.
  obtain ⟨found, bounded, planned⟩ := bind_eq_ok.mp planned
  obtain ⟨whole, converted, planned⟩ := bind_eq_ok.mp planned
  obtain ⟨_, written, same⟩ := bind_eq_ok.mp planned
  cases same
  exact ⟨bounded, converted, written⟩

/-- A declared cap leads to a positive whole number that the largest cap bounds. -/
theorem Registry.rowLimit_of_declared (defaultPos : 0 < registry.defaultLimit)
    (maxPos : 0 < registry.maxLimit) {requested : Value}
    (declared : requested.isDeclaredCap = true) :
    ∃ limit cap, registry.rowLimit requested = .ok limit ∧ limit.toWhole = .ok cap ∧ 0 < cap ∧
      cap ≤ registry.maxLimit := by
  -- What is missing or not positive counts as the default.
  obtain ⟨cap, standard⟩ : ∃ cap, (atMost (.int registry.defaultLimit) registry.maxLimit).toWhole =
      .ok cap ∧ 0 < cap ∧ cap ≤ registry.maxLimit :=
    ⟨_, by rw [atMost_int]; rfl, by omega, by omega⟩
  cases requested with
  | null => exact ⟨_, cap, rfl, standard⟩
  | bool truth =>
    cases truth with
    | false => exact ⟨_, cap, rfl, standard⟩
    | true =>
      refine ⟨_, 1, rfl, ?_, by decide, by omega⟩
      rw [atMost_true maxPos]
      rfl
  | int n =>
    simp only [Registry.rowLimit, Value.isNull, Value.exceeds?]
    by_cases positive : 0 < n
    · refine ⟨atMost (.int n) registry.maxLimit, min n registry.maxLimit, by simp [positive], ?_, by omega, by omega⟩
      rw [atMost_int]
      rfl
    · exact ⟨_, cap, by simp [positive], standard⟩
  | _ => contradiction

/-- The cap of a query is positive in a registry with positive caps. -/
theorem Query.plannedCap_pos (defaultPos : 0 < registry.defaultLimit)
    (maxPos : 0 < registry.maxLimit) (declared : query.maxRows.isDeclaredCap = true)
    (planned : query.plannedCap registry = .ok (limit, cap)) : 0 < cap := by
  -- A declared cap is positive, and bounding it by positive caps keeps it so.
  obtain ⟨bounded, converted, _⟩ := Query.plannedCap_ok planned
  obtain ⟨_, _, found, whole, positive, _⟩ :=
    Registry.rowLimit_of_declared defaultPos maxPos declared
  cases bounded.symm.trans found
  cases converted.symm.trans whole
  exact positive

end Joinery
