import Joinery.Proofs.Number.Layout
import Joinery.Proofs.Number.Shortest

/-! A floating-point number is written with the fewest digits that read back as it, and the nearest of those. -/

namespace Joinery

/-- How many digits a decimal has when zeros at the end do not count. -/
def Decimal.significantDigits : Decimal → Nat
  | .finite _ coefficient _ => (withoutTrailingZeros (decimalDigits coefficient)).length
  | _ => 0

/-- The number that a finite decimal is. -/
def Decimal.toRat : Decimal → ℚ
  | .finite negative coefficient exponent => signed negative coefficient * 10 ^ exponent
  | _ => 0

/-- The number that a finite floating-point number is. -/
def Binary64.toRat : Binary64 → ℚ
  | .finite negative mantissa exponent _ => signed negative mantissa * 2 ^ exponent
  | _ => 0

/-- A decimal that reads back as a number, with as few digits as any that does, and the nearest of those. -/
structure Binary64.IsShortest (x : Binary64) (d : Decimal) : Prop where
  /-- The number nearest to the decimal is this one. -/
  reads : ofDecimal d = x
  /-- Whatever else is nearest to it has at least as many digits. -/
  fewest : ∀ other, ofDecimal other = x → d.significantDigits ≤ other.significantDigits
  /-- And if it has no more, it is no nearer to it. -/
  nearest : ∀ other, ofDecimal other = x → other.significantDigits ≤ d.significantDigits →
    |d.toRat - x.toRat| ≤ |other.toRat - x.toRat|

section Zeros

variable {n : Nat} {cs : List Char}

/-- Zeros at the end are taken away, however many there are. -/
theorem withoutTrailingZeros_append_zeros (cs : List Char) (count : Nat) :
    withoutTrailingZeros (cs ++ List.replicate count '0') = withoutTrailingZeros cs := by
  -- The last zero is taken away first.
  induction count with
  | zero => rw [List.replicate_zero, List.append_nil]
  | succ count ih =>
    rw [List.replicate_succ', ← List.append_assoc, ← ih]
    simp [withoutTrailingZeros]

/-- Nothing else is taken away. -/
theorem exists_withoutTrailingZeros (cs : List Char) :
    ∃ count, cs = withoutTrailingZeros cs ++ List.replicate count '0' := by
  -- What is taken away from the end is what is taken from the front of the reversed digits.
  refine ⟨(cs.reverse.takeWhile (· = '0')).length, ?_⟩
  have zeros : cs.reverse.takeWhile (· = '0') =
      List.replicate (cs.reverse.takeWhile (· = '0')).length '0' :=
    List.eq_replicate_length.mpr fun c member => by simpa using List.mem_takeWhile_imp member
  have parts := congrArg List.reverse
    (List.takeWhile_append_dropWhile (p := fun c => decide (c = '0')) (l := cs.reverse))
  rw [List.reverse_append, List.reverse_reverse, zeros, List.reverse_replicate] at parts
  exact parts.symm

/-- A power of ten puts zeros behind the digits. -/
theorem decimalDigits_mul_pow (positive : 0 < n) (count : Nat) :
    decimalDigits (n * 10 ^ count) = decimalDigits n ++ List.replicate count '0' := by
  -- Each factor of ten writes one zero more.
  induction count with
  | zero => rw [pow_zero, mul_one, List.replicate_zero, List.append_nil]
  | succ count ih =>
    have large : 0 < n * 10 ^ count := Nat.mul_pos positive (by positivity)
    have last : digitChar 0 = '0' := rfl
    rw [pow_succ, ← mul_assoc, decimalDigits, if_neg (by omega), Nat.mul_div_cancel _ (by decide),
      Nat.mul_mod_left, ih, last, List.append_assoc, ← List.replicate_succ']

/-- Nor does it add to the digits that count. -/
theorem Decimal.significantDigits_mul_pow (negative : Bool) (n count : Nat) (exponent : Int) :
    (finite negative (n * 10 ^ count) exponent).significantDigits =
      (withoutTrailingZeros (decimalDigits n)).length := by
  -- The zeros that it writes are the ones that do not count.
  rcases Nat.eq_zero_or_pos n with rfl | positive
  · rw [Nat.zero_mul, significantDigits]
  · rw [significantDigits, decimalDigits_mul_pow positive, withoutTrailingZeros_append_zeros]

/-- The digits that count are some of the digits. -/
theorem length_withoutTrailingZeros_le (cs : List Char) :
    (withoutTrailingZeros cs).length ≤ cs.length := by
  -- Zeros behind them make up all digits.
  obtain ⟨count, parts⟩ := exists_withoutTrailingZeros cs
  have size := congrArg List.length parts
  rw [List.length_append] at size
  omega

/-- The digits that count. -/
theorem allDigits_withoutTrailingZeros (n : Nat) :
    AllDigits (withoutTrailingZeros (decimalDigits n)) := by
  -- They are the front part of the digits of the number.
  obtain ⟨count, parts⟩ := exists_withoutTrailingZeros (decimalDigits n)
  intro c member
  refine mem_decimalDigits (n := n) ?_
  rw [parts]
  exact List.mem_append_left _ member

/-- A number is what its digits that count are, with zeros behind them. -/
theorem eq_withoutTrailingZeros (n : Nat) : ∃ count,
    n = digitsValue (digitValues (withoutTrailingZeros (decimalDigits n))) * 10 ^ count ∧
      digitCount n = (withoutTrailingZeros (decimalDigits n)).length + count := by
  -- The digits are those that count and some zeros, in their value as in their length.
  obtain ⟨count, parts⟩ := exists_withoutTrailingZeros (decimalDigits n)
  have value := congrArg (fun cs => digitsValue (digitValues cs)) parts
  have size := congrArg List.length parts
  simp only [digitsValue_append_zeros] at value
  rw [List.length_append, List.length_replicate] at size
  exact ⟨count, (digitsValue_decimalDigits n).symm.trans value, size⟩

/-- The digits that count are the places up to a power of ten, and this power needs one only. -/
theorem length_withoutTrailingZeros_le_of_le {count : Nat} (small : n ≤ 10 ^ (count + 1)) :
    (withoutTrailingZeros (decimalDigits n)).length ≤ count + 1 := by
  -- Below the power of ten there are few digits, and at the power all but the first are zeros.
  rcases small.lt_or_eq with less | rfl
  · exact (length_withoutTrailingZeros_le _).trans
      (length_decimalDigits_le less (Nat.succ_pos count))
  · have one : (withoutTrailingZeros (decimalDigits 1)).length = 1 := by decide +kernel
    rw [← Nat.one_mul (10 ^ (count + 1)), decimalDigits_mul_pow Nat.one_pos,
      withoutTrailingZeros_append_zeros, one]
    exact Nat.le_add_left 1 count

end Zeros

namespace Binary64

variable {negative : Bool} {coefficient mantissa : Nat} {power exponent : Int} {x : Binary64}

/-- A decimal keeps its sign, and one that does not become zero is not too large and not too small. -/
theorem ofScaled_finite {held : IsBinary64 mantissa exponent} (positive : 0 < mantissa) {sign : Bool}
    (read : ofScaled sign coefficient power = .finite negative mantissa exponent held) :
    sign = negative ∧ 0 < coefficient ∧ -330 ≤ power + digitCount coefficient - 1 ∧
      power + digitCount coefficient - 1 ≤ 310 := by
  -- The sign is handed down to the result, whichever it is.
  have ratio (num den : Nat)
      (read : ofRatio sign num den = .finite negative mantissa exponent held) : sign = negative := by
    rw [ofRatio] at read
    by_cases zero : num = 0
    · rw [if_pos zero] at read
      cases read
      rfl
    · rw [if_neg zero] at read
      dsimp only at read
      split_ifs at read <;> cases read <;> rfl
  rw [ofScaled] at read
  -- Zero has no positive mantissa, and what is too small or too large is not finite or not positive.
  split_ifs at read with none large up
  · cases read
    exact absurd positive (Nat.lt_irrefl _)
  · obtain ⟨filled, least⟩ := not_or.mp none
    exact ⟨ratio _ _ read, Nat.pos_of_ne_zero filled, by omega, by omega⟩
  · obtain ⟨filled, least⟩ := not_or.mp none
    exact ⟨ratio _ _ read, Nat.pos_of_ne_zero filled, by omega, by omega⟩

/-- A sign changes no distance. -/
theorem abs_signed_sub (negative : Bool) (a b : Nat) (x y : ℚ) :
    |signed negative a * x - signed negative b * y| = |a * x - b * y| := by
  -- Two signs that are equal can be taken out of a difference.
  cases negative
  · rfl
  · rw [signed, signed, if_pos rfl, if_pos rfl, ← abs_neg]
    congr 1
    push_cast
    ring

/-- Decimals that read back as a positive number are in its interval, whatever zeros they have at the end. -/
theorem contains_of_ofDecimal (held : IsBinary64 mantissa exponent) (positive : 0 < mantissa)
    {d : Decimal} (read : ofDecimal d = .finite negative mantissa exponent held) :
    ∃ (number : Nat) (power : Int), (interval mantissa exponent).Contains (number * 10 ^ power) ∧
      digitCount number ≤ d.significantDigits ∧
      |d.toRat - (finite negative mantissa exponent held).toRat| =
        |number * 10 ^ power - (interval mantissa exponent).center| := by
  cases d with
  | nan => contradiction
  | infinite => contradiction
  | finite sign coefficient power =>
    -- It has the sign and is not zero, so it is in the interval; its zeros at the end can be left out.
    rw [ofDecimal] at read
    obtain ⟨rfl, filled, _⟩ := ofScaled_finite positive read
    have inside := (ofScaled_eq_finite_iff held positive filled power sign).mp read
    obtain ⟨zeros, value, _⟩ := eq_withoutTrailingZeros coefficient
    have ascii := allDigits_withoutTrailingZeros coefficient
    have some : withoutTrailingZeros (decimalDigits coefficient) ≠ [] := by
      intro none
      rw [none] at value
      exact filled.ne' (value.trans (Nat.zero_mul _))
    have same : (digitsValue (digitValues (withoutTrailingZeros (decimalDigits coefficient))) : ℚ) *
        10 ^ (zeros + power) = coefficient * 10 ^ power := by
      rw [zpow_add₀ (by norm_num), zpow_natCast, ← mul_assoc, ← Nat.cast_ofNat, ← Nat.cast_pow,
        ← Nat.cast_mul, ← value]
    refine ⟨_, zeros + power, same.symm ▸ inside,
      length_decimalDigits_le ascii.value_lt (List.length_pos_iff.mpr some), ?_⟩
    rw [same, center_interval, Decimal.toRat, toRat, abs_signed_sub]

/-- A decimal that is the number found, and has no more digits than its grid, is the shortest one. -/
theorem isShortest_of_searched (held : IsBinary64 mantissa exponent) (positive : 0 < mantissa)
    {leading : Int} {digits : Nat} {found : DigitString}
    (low : (10 : ℚ) ^ leading ≤ mantissa * 2 ^ exponent)
    (high : mantissa * 2 ^ exponent < (10 : ℚ) ^ (leading + 1))
    (searched : (interval mantissa exponent).Searched leading digits found)
    (given : 0 < coefficient)
    (same : (coefficient : ℚ) * 10 ^ power = found.coefficient * 10 ^ (leading - digits))
    (few : (Decimal.finite negative coefficient power).significantDigits ≤ digits + 1) :
    IsShortest (.finite negative mantissa exponent held) (.finite negative coefficient power) := by
  -- It reads back as the number; one with fewer digits, or a nearer one, would have been found instead.
  refine ⟨?_, fun other read => ?_, fun other read short => ?_⟩
  · rw [ofDecimal, ofScaled_eq_finite_iff held positive given, same]
    exact searched.inside
  · obtain ⟨rest, _, inside, bound, _⟩ := contains_of_ofDecimal held positive read
    exact few.trans ((searched_fewest positive low high searched inside).trans bound)
  · obtain ⟨rest, _, inside, bound, distance⟩ := contains_of_ofDecimal held positive read
    have nearest := searched_nearest positive low high searched inside
      (bound.trans (short.trans few))
    rwa [distance, Decimal.toRat, toRat, abs_signed_sub, same, ← center_interval]

/-- A positive number is written with the digits of the shortest decimal that reads back as it. -/
theorem exists_digits (held : IsBinary64 mantissa exponent) (positive : 0 < mantissa)
    (negative : Bool) : ∃ d, SpellsMagnitude negative
        (FloatLayout.usual.write
          (withoutTrailingZeros (decimalDigits (shortest mantissa exponent).coefficient))
          (shortest mantissa exponent).leading) d ∧
      IsShortest (.finite negative mantissa exponent held) d := by
  -- The search gives digits, and the zeros at their end are left out.
  obtain ⟨leading, low, high, digits, searched⟩ := exists_searched held positive
  generalize shortest mantissa exponent = found at searched ⊢
  obtain ⟨zeros, value, size⟩ := eq_withoutTrailingZeros found.coefficient
  have ascii := allDigits_withoutTrailingZeros found.coefficient
  have few := length_withoutTrailingZeros_le_of_le searched.few
  have place := searched.place
  have fine := searched.fine
  -- The digits that were found read back, and so they are neither far before the point nor far behind it.
  obtain ⟨_, _, least, most⟩ := ofScaled_finite positive
    ((ofScaled_eq_finite_iff held positive searched.filled _ negative).mpr searched.inside)
  generalize withoutTrailingZeros (decimalDigits found.coefficient) = ds at value size ascii few ⊢
  generalize written : digitsValue (digitValues ds) = number at value
  -- A positive number has a digit that is not zero.
  have given : 0 < number := by
    refine Nat.pos_of_ne_zero fun zero => searched.filled.ne' ?_
    rw [value, zero, Nat.zero_mul]
  have filled : ds ≠ [] := by
    rintro rfl
    exact given.ne' written.symm
  have near : -400 ≤ found.leading ∧ found.leading ≤ 400 := by omega
  obtain ⟨more, spelled⟩ :=
    FloatLayout.usual.spells_write ascii filled (by omega) near.1 near.2 negative
  rw [written] at spelled
  refine ⟨_, spelled, isShortest_of_searched held positive low high searched
    (Nat.mul_pos given (by positivity)) ?_ ?_⟩
  · -- With other zeros behind them they are the same number.
    have shift : found.leading + 1 - (ds.length : Int) - more = zeros + (leading - digits) - more := by
      omega
    rw [shift, value, zpow_sub₀ (by norm_num), zpow_add₀ (by norm_num), zpow_natCast, zpow_natCast]
    push_cast
    field_simp
  -- Zeros at the end do not count as digits.
  · calc _ = (withoutTrailingZeros (decimalDigits number)).length :=
          Decimal.significantDigits_mul_pow negative number more _
      _ ≤ digitCount number := length_withoutTrailingZeros_le _
      _ ≤ ds.length :=
          length_decimalDigits_le (written ▸ ascii.value_lt) (List.length_pos_iff.mpr filled)
      _ ≤ digits + 1 := few

/-- A finite number is written as a text that spells the shortest decimal that reads back as it. -/
theorem exists_text (finite : x.isFinite = true) :
    ∃ d, SpellsDecimal x.text.toList d ∧ x.IsShortest d := by
  cases x with
  | nan => contradiction
  | infinite => contradiction
  | finite negative mantissa exponent held =>
    -- The sign stands before all digits, and is no part of them.
    have sign : SpellsSign (if negative then ['-'] else []) negative := by
      cases negative
      · exact .silent
      · exact .minus
    rcases Nat.eq_zero_or_pos mantissa with rfl | positive
    · -- Zero has a digit before the point and one behind it.
      obtain rfl : exponent = smallestExponent := held.full.resolve_left (by decide)
      have zero : AllDigits ['0'] := allDigits_zeros 1
      have spelled := zero.spells zero (.inl rfl) .silent (by decide) (by decide) (by decide)
        (by decide) negative
      have none : withoutTrailingZeros (decimalDigits 0) = [] := by decide +kernel
      refine ⟨.finite negative 0 (-1), ?_, rfl, fun other _ => ?_, fun other _ _ => ?_⟩
      · rw [text, String.toList_ofList]
        exact spelled.decimal sign
      · rw [Decimal.significantDigits, none]
        exact Nat.zero_le _
      · rw [Decimal.toRat, toRat, abs_signed_sub]
        simp
    -- All other numbers have the digits that were searched.
    · obtain ⟨d, spelled, short⟩ := exists_digits held positive negative
      refine ⟨d, ?_, short⟩
      have unfolded : (text (.finite negative mantissa exponent held)).toList = _ := String.toList_ofList
      rw [unfolded]
      dsimp only
      rw [if_neg positive.ne']
      exact spelled.decimal sign

end Binary64

end Joinery
