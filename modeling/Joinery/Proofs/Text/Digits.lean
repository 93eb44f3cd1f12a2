import Joinery.Text.Blank
import Joinery.Text.DecimalDigit
import Mathlib.Algebra.Order.Ring.Nat
import Mathlib.Tactic.Ring

/-! Digits spell numbers: one by one, behind one another, and without zeros in front. -/

namespace Joinery

/-- The digits of a number are decimal ones. -/
theorem mem_decimalDigits {n : Nat} {c : Char} (member : c ∈ decimalDigits n) :
    ∃ value < 10, c = digitChar value := by
  -- By the digits before the last one, as they are written.
  induction n using decimalDigits.induct with
  | case1 n small =>
    rw [decimalDigits, if_pos small, List.mem_singleton] at member
    exact ⟨n, small, member⟩
  | case2 n large ih =>
    rw [decimalDigits, if_neg large, List.mem_append, List.mem_singleton] at member
    rcases member with front | last
    · exact ih front
    · exact ⟨n % 10, Nat.mod_lt n (by decide), last⟩

/-- A number is spelled by its digits. -/
theorem digitsValue_decimalDigits (n : Nat) :
    digitsValue ((decimalDigits n).map fun c => c.toNat - 48) = n := by
  have digit : ∀ value < 10, (digitChar value).toNat - 48 = value := by decide
  -- The last digit is what division by ten leaves, and the digits before it are those of the quotient.
  induction n using decimalDigits.induct with
  | case1 n small =>
    rw [decimalDigits, if_pos small, List.map_singleton, digit n small]
    simp [digitsValue]
  | case2 n large ih =>
    rw [decimalDigits, if_neg large, List.map_append, List.map_singleton,
      digit _ (Nat.mod_lt n (by decide))]
    unfold digitsValue at ih ⊢
    rw [List.foldl_append, ih, List.foldl_cons, List.foldl_nil]
    omega

/-- A digit of any script is below ten, and no blank. -/
theorem digitValue?_bounded {c : Char} {value : Nat} (read : digitValue? c = some value) :
    value < 10 ∧ isBlank c = false := by
  -- Each script has its own run of ten digits, and none of these runs meets the blanks.
  have apart : ∀ start ∈ 48 :: digitZeros, ∀ range ∈ blankRanges,
      range.2 < start ∨ start + 10 ≤ range.1 := by decide
  have dark (start : Nat) (member : start ∈ 48 :: digitZeros) (low : start ≤ c.toNat)
      (high : c.toNat < start + 10) : isBlank c = false := by
    rw [← Bool.not_eq_true, isBlank, CharRanges.covers_iff]
    rintro ⟨range, inside, above, below⟩
    have := apart start member range inside
    omega
  unfold digitValue? at read
  split at read
  · rename_i ascii
    cases read
    exact ⟨by omega, dark 48 List.mem_cons_self ascii.1 (by omega)⟩
  · obtain ⟨start, found, rfl⟩ := Option.map_eq_some_iff.mp read
    have bounds := List.find?_some found
    simp only [Bool.and_eq_true, decide_eq_true_eq] at bounds
    exact ⟨by omega, dark start (List.mem_cons_of_mem _ (List.mem_of_find?_eq_some found))
      bounds.1 bounds.2⟩

/-- The digits of ASCII are read back. -/
theorem asciiDigit?_digitChar : ∀ value < 10, asciiDigit? (digitChar value) = some value := by
  decide

/-- There is always a digit to write. -/
theorem decimalDigits_ne_nil (n : Nat) : decimalDigits n ≠ [] := by
  rw [decimalDigits]
  split <;> simp

/-- A number has too few digits to reach the power of ten behind them. -/
theorem lt_pow_length_decimalDigits (n : Nat) : n < 10 ^ (decimalDigits n).length := by
  -- Behind the last digit of the quotient there is one digit more.
  induction n using decimalDigits.induct with
  | case1 n small =>
    rw [decimalDigits, if_pos small]
    exact small
  | case2 n large ih =>
    rw [decimalDigits, if_neg large, List.length_append, List.length_singleton, pow_succ]
    omega

/-- A positive number reaches the power of ten of its first digit. -/
theorem pow_length_decimalDigits_le {n : Nat} (positive : 0 < n) :
    10 ^ ((decimalDigits n).length - 1) ≤ n := by
  -- The quotient is positive too, where there is more than one digit.
  induction n using decimalDigits.induct with
  | case1 n small =>
    rw [decimalDigits, if_pos small]
    exact positive
  | case2 n large ih =>
    have filled : 1 ≤ (decimalDigits (n / 10)).length :=
      List.length_pos_iff.mpr (decimalDigits_ne_nil (n / 10))
    have front := ih (by omega)
    rw [decimalDigits, if_neg large, List.length_append, List.length_singleton, Nat.add_sub_cancel,
      ← Nat.sub_add_cancel filled, pow_succ]
    omega

/-- A number below a power of ten has no more digits than the power has zeros. -/
theorem length_decimalDigits_le {n k : Nat} (small : n < 10 ^ k) (positive : 0 < k) :
    (decimalDigits n).length ≤ k := by
  -- Nothing has one digit, like all numbers below ten.
  rcases Nat.eq_zero_or_pos n with rfl | some
  · rw [decimalDigits]
    exact positive
  · by_contra long
    have reached := (Nat.pow_le_pow_right (by decide : 0 < 10)
      (by omega : k ≤ (decimalDigits n).length - 1)).trans (pow_length_decimalDigits_le some)
    omega

/-- Digits weigh more with every digit that follows. -/
theorem digitsValue_append (front back : List Nat) :
    digitsValue (front ++ back) = digitsValue front * 10 ^ back.length + digitsValue back := by
  have weighed (start : Nat) : back.foldl (fun value digit => 10 * value + digit) start =
      start * 10 ^ back.length + digitsValue back := by
    unfold digitsValue
    -- The value so far moves one place to the left with each digit.
    induction back generalizing start with
    | nil => simp
    | cons digit rest ih =>
      rw [List.foldl_cons, List.foldl_cons, ih, ih (10 * 0 + digit), List.length_cons, pow_succ]
      ring
  rw [digitsValue, List.foldl_append, weighed]
  rfl

end Joinery
