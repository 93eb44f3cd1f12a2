import Joinery.Proofs.Number.Rounding
import Joinery.Proofs.Time.Instant
import Joinery.Time.Epoch

/-!
Seconds after the start of 1970 name instants.

A number of seconds that is whole millionths is that many millionths, though a fraction goes through a product
of floating-point numbers; other numbers are rounded, and equal ones alike.
-/

namespace Joinery

variable {t : LocalTime} {ordinal micros : Nat} {seconds : Int}

/-- The calendar has the year of each of its days. -/
theorem wideYear_bounds (begun : 1 ≤ ordinal) (upTo : ordinal ≤ lastOrdinal) :
    (firstYear : Int) ≤ wideYear ordinal ∧ wideYear ordinal ≤ lastYear := by
  obtain ⟨day, rfl⟩ : ∃ day, ordinal = day + 1 := ⟨ordinal - 1, by omega⟩
  -- A cycle of the calendar has four hundred years; the last one is cut off before its last year.
  have cycles : day / 146097 ≤ 24 := by
    simp only [lastOrdinal] at upTo
    omega
  have whole : ((day + 1 : Nat) - 1 : Int).fdiv 146097 = (day / 146097 : Nat) := by
    rw [Int.fdiv_eq_ediv_of_nonneg _ (by decide)]
    omega
  have rest : (((day + 1 : Nat) - 1 : Int).fmod 146097 + 1).toNat = day % 146097 + 1 := by
    rw [Int.fmod_eq_emod_of_nonneg _ (by decide)]
    omega
  have place (years : Nat) (inside : day % 146097 + 1 ≤ daysBeforeYear (years + 1)) :
      1 ≤ yearOfOrdinal (day % 146097 + 1) ∧ yearOfOrdinal (day % 146097 + 1) ≤ years := by
    obtain ⟨found, first, last, after, ends⟩ := exists_year (Nat.le_add_left 1 _) inside
    rw [yearOfOrdinal_eq first after ends]
    exact ⟨first, last⟩
  have cycleLength : daysBeforeYear (400 + 1) = 146097 := by decide
  have lastLength : daysBeforeYear (399 + 1) = 145731 := by decide
  obtain ⟨low, high⟩ := place 400 (by omega)
  simp only [wideYear, whole, rest, firstYear, lastYear]
  -- Only in the last cycle is there a year too many.
  by_cases final : day / 146097 = 24
  · have cut := (place 399 (by simp only [lastOrdinal] at upTo; omega)).2
    omega
  · omega

/-- Seconds and millionths that lead to a local time of the calendar pass every guard on the way. -/
theorem LocalTime.ofEpochSeconds_of_shift (part : micros < microsPerSecond)
    (shifted : epoch.shift? (seconds * microsPerSecond + micros) = some t) :
    LocalTime.ofEpochSeconds seconds micros = .ok t := by
  have same : (t.micros : Int) = epoch.micros + (seconds * microsPerSecond + micros) := by
    rwa [shift?, ofMicros?_eq_some_iff] at shifted
  obtain ⟨begun, upTo, -⟩ := t.date.date?_ordinal
  obtain ⟨short, -⟩ := t.clock.ofMicros_micros
  have start : epoch.micros = epoch.date.ordinal * microsPerDay := by decide
  -- The day that the guards look at is that of the local time, which is one of the calendar.
  have fromStart : (epoch.date.ordinal : Int) + seconds / 86400 = t.date.ordinal := by
    rw [start] at same
    simp only [LocalTime.micros, microsPerDay, microsPerSecond] at same short part
    omega
  have fits : fitsInt64 seconds = true := by
    have startDay : epoch.date.ordinal = 719163 := by decide
    simp only [fitsInt64, Bool.and_eq_true, decide_eq_true_eq]
    simp only [lastOrdinal] at upTo
    omega
  obtain ⟨first, last⟩ := wideYear_bounds begun upTo
  have narrow : fitsInt32 (wideYear t.date.ordinal - 1900) = true := by
    simp only [fitsInt32, Bool.and_eq_true, decide_eq_true_eq]
    simp only [firstYear, lastYear] at first last
    omega
  simp only [ofEpochSeconds, Int.fdiv_eq_ediv_of_nonneg _ (show (0 : Int) ≤ 86400 by decide),
    fromStart, fits, narrow, Bool.not_true, Bool.false_eq_true, if_false]
  rw [if_neg (by omega), shifted]

/-- Seconds and millionths after the start of 1970 are a local time exactly where the calendar has it. -/
theorem LocalTime.ofEpochSeconds_eq_ok_iff (part : micros < microsPerSecond) :
    LocalTime.ofEpochSeconds seconds micros = .ok t ↔
      (t.micros : Int) = epoch.micros + (seconds * microsPerSecond + micros) := by
  have found : epoch.shift? (seconds * microsPerSecond + micros) = some t ↔
      (t.micros : Int) = epoch.micros + (seconds * microsPerSecond + micros) := by
    rw [shift?, ofMicros?_eq_some_iff]
  rw [← found]
  refine ⟨fun made => ?_, ofEpochSeconds_of_shift part⟩
  -- The guards refuse, and what passes them all is shifted.
  simp only [ofEpochSeconds] at made
  split at made
  · contradiction
  split at made
  · contradiction
  split at made
  · contradiction
  split at made
  · rename_i shifted
    cases made
    exact shifted
  · contradiction

namespace Binary64

/-- A whole number of at most fifty-three bits is held exactly. -/
theorem ofRatio_whole {n den : Nat} (few : n < 2 ^ 53) (positive : 0 < den) (negative : Bool) :
    ∃ mantissa exponent held, ofRatio negative (n * den) den = .finite negative mantissa exponent held ∧
      (mantissa : ℚ) * 2 ^ exponent = n := by
  rcases Nat.eq_zero_or_pos n with rfl | some_
  · exact ⟨0, smallestExponent, by decide, by rw [Nat.zero_mul]; rfl, by simp⟩
  obtain ⟨e, mantissa, own, rounded, made⟩ := exists_ofRatio (Nat.mul_pos some_ positive) positive negative
  have value : ((n * den : Nat) : ℚ) / den = n := by
    rw [Nat.cast_mul, mul_div_cancel_right₀ _ (Nat.cast_ne_zero.mpr positive.ne')]
  rw [value] at own rounded
  -- A number of so few bits needs no positive exponent, so nothing is rounded away.
  have whole : e ≤ 0 := by
    by_contra above
    have least := own.above (lt_of_lt_of_le (by decide) (not_le.mp above).le)
    have bits : (n : ℚ) < 2 ^ 53 := by exact_mod_cast few
    have double : (2 : ℚ) ^ (1 : Int) ≤ 2 ^ e := zpow_le_zpow_right₀ (by norm_num) (by omega)
    rw [le_div_iff₀ (by positivity)] at least
    rw [zpow_one] at double
    linarith
  -- So the number is shifted to its mantissa.
  obtain ⟨shift, rfl⟩ : ∃ shift : Nat, e = -shift := ⟨e.natAbs, by omega⟩
  have exact : (n : ℚ) / 2 ^ (-(shift : Int)) = (n * 2 ^ shift : Nat) := by
    rw [zpow_neg, div_inv_eq_mul, zpow_natCast]
    push_cast
    rfl
  have itself : RoundsTo ((n : ℚ) / 2 ^ (-(shift : Int))) (n * 2 ^ shift) := by
    rw [exact]
    exact ⟨by linarith, by linarith, by rintro (same | same) <;> linarith⟩
  obtain rfl := rounded.unique itself
  have short : n * 2 ^ shift < 2 ^ 53 := by
    have below := own.below
    rw [exact] at below
    exact_mod_cast below
  have high : -(shift : Int) ≤ largestExponent := whole.trans (by decide)
  have held := own.isBinary64 rounded short.ne high
  refine ⟨n * 2 ^ shift, -shift, held, ?_, ?_⟩
  · rw [made, if_neg short.ne]
    exact dif_pos held
  · rw [← exact, div_mul_cancel₀ _ (by positivity)]

/-- One fraction is rounded to one number, in whatever terms it is given. -/
theorem ofRatio_congr {a b c d : Nat} (first : 0 < b) (second : 0 < d) (same : (a : ℚ) / b = c / d)
    (negative : Bool) : ofRatio negative a b = ofRatio negative c d := by
  -- Zero is rounded apart from the rest.
  rcases Nat.eq_zero_or_pos a with rfl | positive
  · have none : c = 0 := by
      rw [Nat.cast_zero, zero_div, eq_comm, div_eq_zero_iff] at same
      exact_mod_cast same.resolve_right (Nat.cast_ne_zero.mpr second.ne')
    rw [none, ofRatio, ofRatio, if_pos rfl, if_pos rfl]
  · have size : (0 : ℚ) < a / b := by positivity
    have other : 0 < c := by
      rw [same] at size
      by_contra none
      rw [Nat.eq_zero_of_not_pos none, Nat.cast_zero, zero_div] at size
      exact lt_irrefl _ size
    -- For other fractions the exponent is unique, and then the mantissa is.
    obtain ⟨e, m, own, rounded, made⟩ := exists_ofRatio positive first negative
    obtain ⟨f, n, own', rounded', made'⟩ := exists_ofRatio other second negative
    rw [← same] at own' rounded'
    obtain rfl := own.unique size own'
    obtain rfl := rounded.unique rounded'
    rw [made, made']

end Binary64

variable {negative : Bool} {mantissa num den part : Nat} {exponent : Int}

/-- The millionths of a second come from a product that is rounded to a floating-point number first. -/
theorem fractionMicros_eq (known : Binary64.fraction mantissa exponent = (num, den)) :
    fractionMicros negative mantissa exponent =
      signed negative (Binary64.ofRatio false (num % den * microsPerSecond) den).nearest := by
  -- The fraction is known by its two numbers.
  rw [fractionMicros, known]

/-- The seconds before the point and the millionths behind it make up a moment; millionths below zero borrow. -/
theorem LocalTime.ofEpochFloat_eq {held : IsBinary64 mantissa exponent} {places : Int}
    (known : Binary64.fraction mantissa exponent = (num, den))
    (behind : fractionMicros negative mantissa exponent = places) :
    ofEpochFloat (.finite negative mantissa exponent held) =
      if microsPerSecond ≤ places then
        ofEpochSeconds (signed negative (num / den) + 1) (places - microsPerSecond).toNat
      else if places < 0 then
        ofEpochSeconds (signed negative (num / den) - 1) (places + microsPerSecond).toNat
      else ofEpochSeconds (signed negative (num / den)) places.toNat := by
  -- The fraction is known, and so are the millionths.
  rw [ofEpochFloat, known, behind]

/-- A fraction of a second that is whole millionths is exactly that many. -/
theorem fractionMicros_whole (known : Binary64.fraction mantissa exponent = (num, den))
    (small : part < microsPerSecond) (whole : num % den * microsPerSecond = part * den) :
    fractionMicros negative mantissa exponent = signed negative part := by
  -- The product is the number of millionths itself, which the floating-point number can hold.
  have positive : 0 < den := by
    have positive := (Binary64.fraction_eq mantissa exponent).1
    rwa [known] at positive
  obtain ⟨bits, power, _, made, value⟩ :=
    Binary64.ofRatio_whole (small.trans (by decide)) positive false
  obtain ⟨above, same⟩ := Binary64.fraction_eq bits power
  -- So rounding it to a whole number gives it back.
  have rounded := roundsTo_roundHalfEven (Binary64.fraction bits power).1 above
  have itself : RoundsTo (part : ℚ) part :=
    ⟨by linarith, by linarith, by rintro (same | same) <;> linarith⟩
  rw [same, value] at rounded
  rw [fractionMicros_eq known, whole, made, Binary64.nearest, rounded.unique itself]

/-- A span of whole millionths is whole seconds and the millionths behind them, under one sign. -/
theorem exists_places (positive : 0 < den) {span : Int}
    (whole : (signed negative num : ℚ) / den * microsPerSecond = span) :
    ∃ part < microsPerSecond, num % den * microsPerSecond = part * den ∧
      signed negative (num / den * microsPerSecond + part) = span := by
  rw [div_mul_eq_mul_div, ← Int.cast_natCast microsPerSecond, ← Int.cast_mul, ← signed_mul] at whole
  obtain ⟨divides, rfl⟩ := (signed_div_eq_iff positive).mpr whole
  -- The whole seconds are whole millionths, so what is left is, too.
  have split : num * microsPerSecond =
      den * (num / den * microsPerSecond) + num % den * microsPerSecond := by
    rw [← Nat.mul_assoc, ← Nat.add_mul, Nat.div_add_mod]
  rw [split, Nat.mul_add_mod] at divides
  obtain ⟨part, same⟩ := Nat.dvd_of_mod_eq_zero divides
  refine ⟨part, ?_, by rw [same, Nat.mul_comm], ?_⟩
  · have below := Nat.mul_lt_mul_of_pos_right (Nat.mod_lt num positive)
      (show 0 < microsPerSecond by decide)
    rw [same] at below
    exact Nat.lt_of_mul_lt_mul_left below
  · rw [split, Nat.mul_add_div positive, same, Nat.mul_div_cancel_left _ positive]

/-- A floating-point number of seconds that is whole millionths is a local time exactly where the calendar has it. -/
theorem LocalTime.ofEpochFloat_eq_ok_iff {held : IsBinary64 mantissa exponent} {span : Int}
    (whole : (signed negative mantissa : ℚ) * 2 ^ exponent * microsPerSecond = span) :
    LocalTime.ofEpochFloat (.finite negative mantissa exponent held) = .ok t ↔
      (t.micros : Int) = epoch.micros + span := by
  obtain ⟨num, den, known⟩ : ∃ num den, Binary64.fraction mantissa exponent = (num, den) := ⟨_, _, rfl⟩
  obtain ⟨positive, -⟩ := Binary64.fraction_eq mantissa exponent
  rw [Binary64.signed_fraction, known] at whole
  rw [known] at positive
  obtain ⟨part, small, places, rfl⟩ := exists_places positive whole
  rw [ofEpochFloat_eq known (fractionMicros_whole known small places)]
  generalize num / den = seconds
  cases negative with
  | false =>
    simp only [signed, Bool.false_eq_true, if_false]
    rw [if_neg (by omega), if_neg (by omega), Int.toNat_natCast, ofEpochSeconds_eq_ok_iff small]
    push_cast
    rfl
  | true =>
    simp only [signed, if_true]
    -- Below zero the millionths count up from the second before.
    by_cases none : part = 0
    · subst none
      have total : -(seconds : Int) * microsPerSecond + ((0 : Nat) : Int) =
          -((seconds * microsPerSecond + 0 : Nat) : Int) := by
        push_cast
        ring
      rw [if_neg (by decide), if_neg (by decide), ← total]
      exact ofEpochSeconds_eq_ok_iff small
    · rw [if_neg (by omega), if_pos (by omega), ofEpochSeconds_eq_ok_iff (by omega)]
      have total : (-(seconds : Int) - 1) * microsPerSecond +
          ((-(part : Int) + microsPerSecond).toNat : Int) =
            -((seconds * microsPerSecond + part : Nat) : Int) := by
        rw [Int.toNat_of_nonneg (by omega)]
        push_cast
        ring
      rw [total]

/-- Equal numbers of seconds are one local time, or refused alike. -/
theorem LocalTime.ofEpochFloat_congr {held : IsBinary64 mantissa exponent} {other : Bool} {bits : Nat}
    {power : Int} {held' : IsBinary64 bits power}
    (same : (signed negative mantissa : ℚ) * 2 ^ exponent = signed other bits * 2 ^ power)
    (nonzero : (signed negative mantissa : ℚ) * 2 ^ exponent ≠ 0) :
    LocalTime.ofEpochFloat (.finite negative mantissa exponent held) =
      LocalTime.ofEpochFloat (.finite other bits power held') := by
  obtain ⟨first, -⟩ := Binary64.fraction_eq mantissa exponent
  obtain ⟨second, -⟩ := Binary64.fraction_eq bits power
  obtain ⟨num, den, left⟩ : ∃ num den, Binary64.fraction mantissa exponent = (num, den) := ⟨_, _, rfl⟩
  obtain ⟨num', den', right⟩ : ∃ num den, Binary64.fraction bits power = (num, den) := ⟨_, _, rfl⟩
  rw [Binary64.signed_fraction, left] at nonzero
  rw [Binary64.signed_fraction, Binary64.signed_fraction, left, right] at same
  rw [left] at first
  rw [right] at second
  dsimp only at first second same nonzero
  have size : (0 : ℚ) < den := Nat.cast_pos.mpr first
  have size' : (0 : ℚ) < den' := Nat.cast_pos.mpr second
  rw [div_eq_div_iff size.ne' size'.ne'] at same
  have crossed : signed negative (num * den') = signed other (num' * den) := by
    rw [signed_mul, signed_mul]
    exact_mod_cast same
  have positive : num ≠ 0 := by
    rintro rfl
    exact nonzero (by cases negative <;> simp [signed])
  -- Neither is zero, so both are on one side of it.
  obtain ⟨rfl, cross⟩ := signed_inj (Nat.mul_pos (Nat.pos_of_ne_zero positive) second) crossed
  -- Equal fractions have equal whole parts, and equal rests.
  have whole : num / den = num' / den' := by
    rw [← Nat.mul_div_mul_right num den second, cross, Nat.mul_comm den, Nat.mul_div_mul_right _ _ first]
  have rest : num % den * den' = num' % den' * den := by
    rw [← Nat.mul_mod_mul_right, cross, Nat.mul_comm den, Nat.mul_mod_mul_right]
  have ratio : ((num % den * microsPerSecond : Nat) : ℚ) / den =
      (num' % den' * microsPerSecond : Nat) / den' := by
    rw [div_eq_div_iff size.ne' size'.ne', ← Nat.cast_mul, ← Nat.cast_mul, Nat.cast_inj,
      Nat.mul_right_comm, rest, Nat.mul_right_comm]
  have places : fractionMicros negative mantissa exponent = fractionMicros negative bits power := by
    rw [fractionMicros_eq left, fractionMicros_eq right, Binary64.ofRatio_congr first second ratio]
  rw [ofEpochFloat_eq left places, ofEpochFloat_eq right rfl, whole]

end Joinery
