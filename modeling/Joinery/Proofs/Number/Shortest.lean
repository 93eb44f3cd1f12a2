import Joinery.Proofs.Number.Rounding
import Joinery.Proofs.Text.Digits
import Mathlib.Data.Nat.Cast.Order.Field

/-! The digits that are found for a binary number read back as it, and no digits as few are nearer. -/

namespace Joinery

/-- Powers of ten are those of a rational number. -/
theorem cast_powTen (exponent : Nat) : (powTen exponent : ℚ) = 10 ^ (exponent : Int) := by
  rw [zpow_natCast]
  exact Nat.cast_pow 10 exponent

/-- A power of ten is positive. -/
theorem powTen_pos (exponent : Nat) : 0 < powTen exponent :=
  Nat.pow_pos (by decide)

/-- There is always a digit. -/
theorem digitCount_pos (n : Nat) : 0 < digitCount n :=
  List.length_pos_iff.mpr (decimalDigits_ne_nil n)

/-- A quotient of whole numbers is rounded down. -/
theorem natDiv_bounds (num : Nat) {den : Nat} (positive : 0 < den) :
    ((num / den : Nat) : ℚ) ≤ num / den ∧ (num : ℚ) / den < (num / den : Nat) + 1 := by
  -- Division of whole numbers leaves a rest that is smaller than one.
  refine ⟨Nat.cast_div_le, ?_⟩
  rw [div_lt_iff₀ (Nat.cast_pos.mpr positive)]
  exact_mod_cast (Nat.div_lt_iff_lt_mul positive).mp (Nat.lt_succ_self _)

/-- A decimal lies between two powers of ten, which its first digit tells. -/
theorem decimal_bounds {coefficient : Nat} (positive : 0 < coefficient) (exponent : Int) :
    (10 : ℚ) ^ (exponent + digitCount coefficient - 1) ≤ coefficient * 10 ^ exponent ∧
      coefficient * 10 ^ exponent < (10 : ℚ) ^ (exponent + digitCount coefficient) := by
  -- The coefficient lies between two powers of ten, and the exponent moves all three.
  have size : (0 : ℚ) < 10 ^ exponent := by positivity
  have count := digitCount_pos coefficient
  constructor
  · have low : (10 : ℚ) ^ ((digitCount coefficient : Int) - 1) ≤ coefficient := by
      have whole : ((digitCount coefficient : Int) - 1) = ((digitCount coefficient - 1 : Nat) : Int) := by
        omega
      rw [whole, zpow_natCast]
      exact_mod_cast pow_length_decimalDigits_le positive
    have split : exponent + digitCount coefficient - 1 =
        (digitCount coefficient : Int) - 1 + exponent := by omega
    rw [split, zpow_add₀ (by norm_num)]
    exact mul_le_mul_of_nonneg_right low size.le
  · have high : (coefficient : ℚ) < 10 ^ (digitCount coefficient : Int) := by
      rw [zpow_natCast]
      exact_mod_cast lt_pow_length_decimalDigits coefficient
    rw [add_comm, zpow_add₀ (by norm_num)]
    exact mul_lt_mul_of_pos_right high size

namespace Binary64

variable {mantissa : Nat} {exponent : Int} {x : ℚ}

/-- What is in an interval is neither too small nor too large for a binary number. -/
theorem bounds_of_contains (held : IsBinary64 mantissa exponent) (positive : 0 < mantissa)
    (inside : (interval mantissa exponent).Contains x) :
    (2 : ℚ) ^ (-1075 : Int) ≤ x ∧ x < 2 ^ (1024 : Int) := by
  -- The mantissa lies between one and the fifty-third power of two, and the exponent has bounds.
  obtain ⟨above, below⟩ := place_of_contains positive inside
  have size : (0 : ℚ) < 2 ^ exponent := by positivity
  have reach := (lowerReach_bounds mantissa exponent).2
  have first : (1 : ℚ) ≤ mantissa := by exact_mod_cast positive
  have bits : (mantissa : ℚ) + 1 ≤ 2 ^ 53 := by exact_mod_cast held.few
  have least : 1 / 2 ≤ x / 2 ^ exponent := by linarith
  have most : x / 2 ^ exponent < 2 ^ 53 := by linarith
  rw [le_div_iff₀ size] at least
  rw [div_lt_iff₀ size] at most
  have low := held.low
  have high := held.high
  unfold smallestExponent at low
  unfold largestExponent at high
  constructor
  · calc (2 : ℚ) ^ (-1075 : Int) ≤ 2 ^ (exponent - 1) := zpow_le_zpow_right₀ (by norm_num) (by omega)
      _ = 1 / 2 * 2 ^ exponent := by rw [zpow_sub_one₀ (by norm_num)]; ring
      _ ≤ x := least
  · calc x < 2 ^ 53 * 2 ^ exponent := most
      _ = 2 ^ (53 + exponent) := by rw [zpow_add₀ (by norm_num)]; rfl
      _ ≤ 2 ^ (1024 : Int) := zpow_le_zpow_right₀ (by norm_num) (by omega)

/-- A decimal is read as a positive binary number exactly when it is in the interval of that number. -/
theorem ofScaled_eq_finite_iff {coefficient : Nat} (held : IsBinary64 mantissa exponent)
    (positive : 0 < mantissa) (given : 0 < coefficient) (power : Int) (negative : Bool) :
    ofScaled negative coefficient power = .finite negative mantissa exponent held ↔
      (interval mantissa exponent).Contains (coefficient * 10 ^ power) := by
  -- A decimal is known up to a factor of ten from its digits.
  obtain ⟨least, most⟩ := decimal_bounds given power
  rw [ofScaled]
  by_cases small : power + digitCount coefficient - 1 < -330
  · -- A decimal that is taken for zero is below all intervals.
    rw [if_pos (.inr small)]
    refine iff_of_false ?_ fun inside => ?_
    · intro same
      cases same
      exact Nat.lt_irrefl _ positive
    · have bounds := (bounds_of_contains held positive inside).1
      have tiny : (10 : ℚ) ^ (power + digitCount coefficient) ≤ 10 ^ (-330 : Int) :=
        zpow_le_zpow_right₀ (by norm_num) (by omega)
      have apart : (10 : ℚ) ^ (-330 : Int) ≤ 2 ^ (-1075 : Int) := by
        have powers : 2 ^ 1075 ≤ 10 ^ 330 := by decide +kernel
        rw [zpow_neg, zpow_neg]
        exact inv_anti₀ (by positivity) (by exact_mod_cast powers)
      exact absurd (bounds.trans_lt (most.trans_le (tiny.trans apart))) (lt_irrefl _)
  · rw [if_neg (not_or.mpr ⟨given.ne', small⟩)]
    by_cases large : 310 < power + digitCount coefficient - 1
    · -- A decimal that is taken for infinite is above them.
      rw [if_pos large]
      refine iff_of_false (fun same => by contradiction) fun inside => ?_
      have bounds := (bounds_of_contains held positive inside).2
      have huge : (10 : ℚ) ^ (311 : Int) ≤ 10 ^ (power + digitCount coefficient - 1) :=
        zpow_le_zpow_right₀ (by norm_num) (by omega)
      have apart : (2 : ℚ) ^ (1024 : Int) ≤ 10 ^ (311 : Int) := by
        have powers : 2 ^ 1024 ≤ 10 ^ 311 := by decide +kernel
        exact_mod_cast powers
      exact absurd (bounds.trans_le (apart.trans (huge.trans least))) (lt_irrefl _)
    -- Every other decimal is rounded as a fraction.
    · rw [if_neg large]
      split_ifs with up
      · have same : ((coefficient * powTen power.toNat : Nat) : ℚ) / (1 : Nat) =
            coefficient * 10 ^ power := by
          rw [Nat.cast_mul, cast_powTen, Int.toNat_of_nonneg up, Nat.cast_one, div_one]
        rw [ofRatio_eq_finite_iff held positive (Nat.mul_pos given (powTen_pos _)) Nat.one_pos, same]
      · have same : (coefficient : ℚ) / (powTen (-power).toNat : Nat) = coefficient * 10 ^ power := by
          rw [cast_powTen, Int.toNat_of_nonneg (by omega), zpow_neg, div_inv_eq_mul]
        rw [ofRatio_eq_finite_iff held positive given (powTen_pos _), same]

end Binary64

namespace RoundingInterval

variable {interval : RoundingInterval} {grid : Int} {coefficient : Nat}

/-- An interval of positive numbers with its middle inside. -/
structure IsProper (interval : RoundingInterval) : Prop where
  /-- The lower end is positive. -/
  positive : 0 < interval.low
  /-- The middle is above it. -/
  low : interval.low < interval.middle
  /-- The middle is below the upper end. -/
  high : interval.middle < interval.high

/-- A power of a positive number is a quotient of powers without a sign. -/
theorem zpow_eq_div {base : ℚ} (positive : 0 < base) (exponent : Int) :
    base ^ exponent = base ^ (exponent.toNat : Int) / base ^ ((-exponent).toNat : Int) := by
  -- The difference of the two parts is the exponent.
  rw [← zpow_sub₀ positive.ne']
  congr 1
  omega

/-- The factors of a grid are a fraction: how often a power of ten goes into a power of two. -/
theorem gridFactors_eq (exponent grid : Int) : 0 < (gridFactors exponent grid).1 ∧
    0 < (gridFactors exponent grid).2 ∧
    ((gridFactors exponent grid).1 : ℚ) / (gridFactors exponent grid).2 =
      2 ^ exponent / 10 ^ grid := by
  -- Each of the two powers goes to the side on which its exponent is not negative.
  refine ⟨Nat.mul_pos (powTwo_pos _) (powTen_pos _), Nat.mul_pos (powTwo_pos _) (powTen_pos _), ?_⟩
  have two := zpow_eq_div (by norm_num : (0 : ℚ) < 2) exponent
  have ten := zpow_eq_div (by norm_num : (0 : ℚ) < 10) grid
  rw [two, ten, gridFactors, Nat.cast_mul, Nat.cast_mul, cast_powTwo, cast_powTwo, cast_powTen,
    cast_powTen, div_div_div_eq]

/-- Whether a multiple of a power of ten is in an interval. -/
def holds (interval : RoundingInterval) (grid : Int) (candidate : Nat) : Bool :=
  let (up, down) := gridFactors interval.exponent grid
  if interval.closed then
    interval.low * up ≤ candidate * down && candidate * down ≤ interval.high * up
  else interval.low * up < candidate * down && candidate * down < interval.high * up

/-- The largest multiple of a power of ten that is not above the middle. -/
def multipleBelow (interval : RoundingInterval) (grid : Int) : Nat :=
  let (up, down) := gridFactors interval.exponent grid
  interval.middle * up / down

/-- How far the middle is above that multiple, in parts of a step. -/
def gapBelow (interval : RoundingInterval) (grid : Int) : Nat :=
  let (up, down) := gridFactors interval.exponent grid
  interval.middle * up - interval.multipleBelow grid * down

/-- How far it is below the next one. -/
def gapAbove (interval : RoundingInterval) (grid : Int) : Nat :=
  let (up, down) := gridFactors interval.exponent grid
  (interval.multipleBelow grid + 1) * down - interval.middle * up

/-- Integers decide whether a multiple is in an interval. -/
theorem holds_iff : interval.holds grid coefficient = true ↔
    interval.Contains (coefficient * 10 ^ grid) := by
  obtain ⟨upPos, downPos, ratio⟩ := gridFactors_eq interval.exponent grid
  have up : (0 : ℚ) < (gridFactors interval.exponent grid).1 := Nat.cast_pos.mpr upPos
  have down : (0 : ℚ) < (gridFactors interval.exponent grid).2 := Nat.cast_pos.mpr downPos
  -- Seen from the grid of the interval, the multiple is a quotient of whole numbers.
  have place : (coefficient : ℚ) * 10 ^ grid / 2 ^ interval.exponent =
      (coefficient * (gridFactors interval.exponent grid).2 : Nat) /
        (gridFactors interval.exponent grid).1 := by
    have flipped := congrArg (·⁻¹) ratio
    simp only [inv_div] at flipped
    rw [Nat.cast_mul, mul_div_assoc, mul_div_assoc, flipped]
  have contains : interval.Contains (coefficient * 10 ^ grid) ↔ _ ∧ _ :=
    ⟨fun inside => ⟨inside.above, inside.below⟩, fun inside => ⟨inside.1, inside.2⟩⟩
  rw [contains, place, lt_div_iff₀ up, div_lt_iff₀ up, eq_div_iff up.ne', div_eq_iff up.ne',
    ← Nat.cast_mul, ← Nat.cast_mul, Nat.cast_lt, Nat.cast_lt, Nat.cast_inj, Nat.cast_inj]
  simp only [holds]
  split_ifs with closed
  · simp only [Bool.and_eq_true, decide_eq_true_eq, closed, true_and, Nat.le_iff_lt_or_eq]
  · simp only [Bool.and_eq_true, decide_eq_true_eq, closed, Bool.false_eq_true, false_and, or_false]

/-- What lies between two numbers of an interval is in it too. -/
theorem Contains.between {x y z : ℚ} (first : interval.Contains x) (last : interval.Contains z)
    (low : x ≤ y) (high : y ≤ z) : interval.Contains y := by
  -- On the scale of the interval, the lower end bounds the smallest and the upper end the largest.
  have size : (0 : ℚ) < 2 ^ interval.exponent := by positivity
  have lower := div_le_div_of_nonneg_right low size.le
  have upper := div_le_div_of_nonneg_right high size.le
  constructor
  · rcases first.above with less | ⟨closed, same⟩
    · exact .inl (less.trans_le lower)
    · exact (same.trans_le lower).lt_or_eq.imp_right fun equal => ⟨closed, equal⟩
  · rcases last.below with less | ⟨closed, same⟩
    · exact .inl (upper.trans_lt less)
    · exact (upper.trans_eq same).lt_or_eq.imp_right fun equal => ⟨closed, equal⟩

/-- The middle of an interval as a number. -/
def center (interval : RoundingInterval) : ℚ :=
  interval.middle * 2 ^ interval.exponent

/-- The middle is inside. -/
theorem IsProper.contains_center (proper : interval.IsProper) :
    interval.Contains interval.center := by
  -- On the scale of the interval, the middle lies between both ends.
  have place : interval.center / 2 ^ interval.exponent = interval.middle :=
    mul_div_cancel_right₀ _ (by positivity)
  constructor <;> rw [place]
  · exact .inl (Nat.cast_lt.mpr proper.low)
  · exact .inl (Nat.cast_lt.mpr proper.high)

/-- There is no zero in an interval of positive numbers. -/
theorem IsProper.pos_of_contains (proper : interval.IsProper) {x : ℚ}
    (inside : interval.Contains x) : 0 < x := by
  -- The lower end is a positive number already.
  have least : (0 : ℚ) < interval.low := Nat.cast_pos.mpr proper.positive
  have place : 0 < x / 2 ^ interval.exponent := by
    rcases inside.above with less | ⟨_, same⟩ <;> linarith
  rwa [lt_div_iff₀ (by positivity), zero_mul] at place

/-- The middle is a quotient of whole numbers, seen from a grid. -/
theorem center_eq (interval : RoundingInterval) (grid : Int) :
    interval.center = (interval.middle * (gridFactors interval.exponent grid).1 : Nat) /
      (gridFactors interval.exponent grid).2 * 10 ^ grid := by
  -- The middle is multiplied by a power of two, and measured in a power of ten.
  obtain ⟨_, _, ratio⟩ := gridFactors_eq interval.exponent grid
  have size : (10 : ℚ) ^ grid ≠ 0 := by positivity
  rw [← div_eq_iff size, center, Nat.cast_mul, mul_div_assoc, mul_div_assoc, ratio]

/-- It lies between two neighbours of the grid. -/
theorem center_between (interval : RoundingInterval) (grid : Int) :
    interval.multipleBelow grid * 10 ^ grid ≤ interval.center ∧
      interval.center < (interval.multipleBelow grid + 1) * 10 ^ grid := by
  -- The quotient is rounded down, and one more is above it.
  obtain ⟨_, downPos, _⟩ := gridFactors_eq interval.exponent grid
  have size : (0 : ℚ) < 10 ^ grid := by positivity
  rw [center_eq interval grid, mul_le_mul_iff_left₀ size, mul_lt_mul_iff_left₀ size]
  exact natDiv_bounds _ downPos

/-- The gaps to both are whole numbers, in parts of a step of the grid. -/
theorem gaps_eq (interval : RoundingInterval) (grid : Int) : ∃ part : ℚ, 0 < part ∧
    interval.center - interval.multipleBelow grid * 10 ^ grid = interval.gapBelow grid * part ∧
    (interval.multipleBelow grid + 1) * 10 ^ grid - interval.center =
      interval.gapAbove grid * part := by
  -- A step is cut into as many parts as the denominator has, and the middle is at one of the cuts.
  obtain ⟨_, downPos, _⟩ := gridFactors_eq interval.exponent grid
  have down : (0 : ℚ) < (gridFactors interval.exponent grid).2 := Nat.cast_pos.mpr downPos
  have low : interval.multipleBelow grid * (gridFactors interval.exponent grid).2 ≤
      interval.middle * (gridFactors interval.exponent grid).1 := Nat.div_mul_le_self _ _
  have high : interval.middle * (gridFactors interval.exponent grid).1 ≤
      (interval.multipleBelow grid + 1) * (gridFactors interval.exponent grid).2 :=
    ((Nat.div_lt_iff_lt_mul downPos).mp (Nat.lt_succ_self _)).le
  refine ⟨10 ^ grid / (gridFactors interval.exponent grid).2, by positivity, ?_, ?_⟩
  · rw [center_eq interval grid, gapBelow, Nat.cast_sub low]
    push_cast
    field_simp
  · rw [center_eq interval grid, gapAbove, Nat.cast_sub high]
    push_cast
    field_simp

/-- The gaps decide which of the two is nearer. -/
theorem nearer_iff (interval : RoundingInterval) (grid : Int) :
    (interval.center - interval.multipleBelow grid * 10 ^ grid ≤
        (interval.multipleBelow grid + 1) * 10 ^ grid - interval.center ↔
      interval.gapBelow grid ≤ interval.gapAbove grid) ∧
    ((interval.multipleBelow grid + 1) * 10 ^ grid - interval.center ≤
        interval.center - interval.multipleBelow grid * 10 ^ grid ↔
      interval.gapAbove grid ≤ interval.gapBelow grid) := by
  -- Both gaps are measured in the same parts.
  obtain ⟨part, positive, below, above⟩ := interval.gaps_eq grid
  rw [below, above, mul_le_mul_iff_left₀ positive, mul_le_mul_iff_left₀ positive, Nat.cast_le,
    Nat.cast_le]
  exact ⟨Iff.rfl, Iff.rfl⟩

/-- The search on a grid ends with a neighbour of the middle, the nearer one if both are inside. -/
theorem onGrid?_cases (interval : RoundingInterval) (grid : Int) :
    (interval.onGrid? grid = some (interval.multipleBelow grid) ∧
        (0 < interval.multipleBelow grid ∧
          interval.holds grid (interval.multipleBelow grid) = true) ∧
        (interval.holds grid (interval.multipleBelow grid + 1) = true →
          interval.center - interval.multipleBelow grid * 10 ^ grid ≤
            (interval.multipleBelow grid + 1) * 10 ^ grid - interval.center)) ∨
      (interval.onGrid? grid = some (interval.multipleBelow grid + 1) ∧
        interval.holds grid (interval.multipleBelow grid + 1) = true ∧
        (0 < interval.multipleBelow grid ∧
            interval.holds grid (interval.multipleBelow grid) = true →
          (interval.multipleBelow grid + 1) * 10 ^ grid - interval.center ≤
            interval.center - interval.multipleBelow grid * 10 ^ grid)) ∨
      interval.onGrid? grid = none ∧
        ¬ (0 < interval.multipleBelow grid ∧
          interval.holds grid (interval.multipleBelow grid) = true) ∧
        ¬ interval.holds grid (interval.multipleBelow grid + 1) = true := by
  have unfolded : interval.onGrid? grid =
      let below := interval.multipleBelow grid
      let lowIn := 0 < below && interval.holds grid below
      let highIn := interval.holds grid (below + 1)
      let toLow := interval.gapBelow grid
      let toHigh := interval.gapAbove grid
      if lowIn && (!highIn || toLow < toHigh || (toLow == toHigh && below % 2 == 0)) then some below
      else if highIn then some (below + 1)
      else none := rfl
  rw [unfolded, (nearer_iff interval grid).1, (nearer_iff interval grid).2]
  simp only
  -- The lower neighbour is taken when it is inside and no farther than the other, which comes second.
  split_ifs with low high
  · obtain ⟨inside, chosen⟩ := Bool.and_eq_true_iff.mp low
    rw [Bool.and_eq_true, decide_eq_true_eq] at inside
    refine .inl ⟨rfl, inside, fun both => ?_⟩
    simp only [both, Bool.not_true, Bool.false_or, Bool.or_eq_true, Bool.and_eq_true,
      decide_eq_true_eq, beq_iff_eq] at chosen
    omega
  · refine .inr (.inl ⟨rfl, high, fun both => ?_⟩)
    simp only [both, high, decide_true, Bool.true_and, Bool.not_true, Bool.false_or, Bool.or_eq_true,
      Bool.and_eq_true, decide_eq_true_eq, beq_iff_eq] at low
    omega
  -- Neither neighbour is inside.
  · refine .inr (.inr ⟨rfl, fun inside => low ?_, high⟩)
    rw [Bool.not_eq_true] at high
    simp [inside, high]

/-- If a number of the grid is in the interval, a neighbour of the middle is, and it is as near. -/
theorem IsProper.neighbour_of_contains (proper : interval.IsProper)
    (inside : interval.Contains (coefficient * 10 ^ grid)) :
    ((0 < interval.multipleBelow grid ∧
          interval.holds grid (interval.multipleBelow grid) = true) ∧
        interval.center - interval.multipleBelow grid * 10 ^ grid ≤
          |coefficient * 10 ^ grid - interval.center|) ∨
      interval.holds grid (interval.multipleBelow grid + 1) = true ∧
        (interval.multipleBelow grid + 1) * 10 ^ grid - interval.center ≤
          |coefficient * 10 ^ grid - interval.center| := by
  -- Whatever is inside lies on one side of the middle, and the neighbour on that side is between them.
  obtain ⟨low, high⟩ := interval.center_between grid
  have size : (0 : ℚ) < 10 ^ grid := by positivity
  have filled : 0 < coefficient := by
    by_contra zero
    rw [Nat.eq_zero_of_not_pos zero, Nat.cast_zero, zero_mul] at inside
    exact lt_irrefl _ (proper.pos_of_contains inside)
  rw [holds_iff, holds_iff]
  rcases Nat.lt_or_ge (interval.multipleBelow grid) coefficient with above | below
  · have step : ((interval.multipleBelow grid + 1 : Nat) : ℚ) * 10 ^ grid ≤ coefficient * 10 ^ grid :=
      mul_le_mul_of_nonneg_right (Nat.cast_le.mpr above) size.le
    rw [Nat.cast_succ] at step ⊢
    exact .inr ⟨proper.contains_center.between inside high.le step,
      (sub_le_sub_right step _).trans (le_abs_self _)⟩
  · have step : (interval.multipleBelow grid : ℚ) * 10 ^ grid ≥ coefficient * 10 ^ grid :=
      mul_le_mul_of_nonneg_right (Nat.cast_le.mpr below) size.le
    refine .inl ⟨⟨filled.trans_le below, inside.between proper.contains_center step low⟩, ?_⟩
    rw [abs_sub_comm]
    exact (sub_le_sub_left step _).trans (le_abs_self _)

/-- What is found on a grid is in the interval, next to the middle. -/
theorem onGrid?_some (found : interval.onGrid? grid = some coefficient) :
    0 < coefficient ∧ interval.Contains (coefficient * 10 ^ grid) ∧
      coefficient ≤ interval.multipleBelow grid + 1 := by
  -- The two neighbours are tried, and what is found has passed the test.
  rcases interval.onGrid?_cases grid with ⟨below, ⟨filled, inside⟩, _⟩ | ⟨above, inside, _⟩ | ⟨none, _⟩
  · obtain rfl := Option.some.inj (below.symm.trans found)
    exact ⟨filled, holds_iff.mp inside, Nat.le_succ _⟩
  · obtain rfl := Option.some.inj (above.symm.trans found)
    exact ⟨Nat.succ_pos _, holds_iff.mp inside, le_rfl⟩
  · rw [none] at found
    contradiction

/-- Nothing else of the grid that is in the interval is nearer to the middle. -/
theorem IsProper.onGrid?_nearest (proper : interval.IsProper)
    (found : interval.onGrid? grid = some coefficient) {other : Nat}
    (inside : interval.Contains (other * 10 ^ grid)) :
    |coefficient * 10 ^ grid - interval.center| ≤ |other * 10 ^ grid - interval.center| := by
  -- Each number of the grid has a neighbour of the middle before it, and the nearer neighbour was taken.
  obtain ⟨low, high⟩ := interval.center_between grid
  have neighbour := proper.neighbour_of_contains inside
  rcases interval.onGrid?_cases grid with ⟨below, _, nearer⟩ | ⟨above, _, nearer⟩ | ⟨none, _⟩
  · obtain rfl := Option.some.inj (below.symm.trans found)
    rw [abs_of_nonpos (sub_nonpos.mpr low), neg_sub]
    rcases neighbour with ⟨_, near⟩ | ⟨both, near⟩
    · exact near
    · exact (nearer both).trans near
  · obtain rfl := Option.some.inj (above.symm.trans found)
    rw [Nat.cast_succ, abs_of_nonneg (sub_nonneg.mpr high.le)]
    rcases neighbour with ⟨both, near⟩ | ⟨_, near⟩
    · exact (nearer both).trans near
    · exact near
  · rw [none] at found
    contradiction

/-- Where nothing is found, nothing of the grid is in the interval. -/
theorem IsProper.onGrid?_none (proper : interval.IsProper) (missed : interval.onGrid? grid = none)
    (coefficient : Nat) : ¬ interval.Contains (coefficient * 10 ^ grid) := by
  -- Otherwise a neighbour would be inside, and it would have been taken.
  intro inside
  rcases interval.onGrid?_cases grid with ⟨below, _⟩ | ⟨above, _⟩ | ⟨_, noBelow, noAbove⟩
  · rw [missed] at below
    contradiction
  · rw [missed] at above
    contradiction
  · exact (proper.neighbour_of_contains inside).elim (fun own => noBelow own.1)
      fun own => noAbove own.1

/-- The search ends on the first grid that has a number in the interval, and on a grid that has one. -/
theorem firstGrid?_range (interval : RoundingInterval) (leading : Int) (start count : Nat) :
    (∃ digits coefficient, start ≤ digits ∧ digits < start + count ∧
      interval.firstGrid? leading (List.range' start count) =
        some ⟨coefficient, leading - digits + digitCount coefficient - 1⟩ ∧
      interval.onGrid? (leading - digits) = some coefficient ∧
      ∀ coarser : Nat, start ≤ coarser → coarser < digits →
        interval.onGrid? (leading - coarser) = none) ∨
    ∀ digits : Nat, start ≤ digits → digits < start + count →
      interval.onGrid? (leading - digits) = none := by
  -- The grids are tried one by one, and those before the first hit have been missed.
  induction count generalizing start with
  | zero => exact .inr fun digits low high => absurd (low.trans_lt high) (Nat.lt_irrefl _)
  | succ count ih =>
    rw [List.range'_succ, firstGrid?]
    cases first : interval.onGrid? (leading - start) with
    | some coefficient =>
      exact .inl ⟨start, coefficient, le_rfl, by omega, rfl, first, fun coarser low high => by omega⟩
    | none =>
      have step {digits : Nat} (low : start ≤ digits) : digits = start ∨ start + 1 ≤ digits := by omega
      rcases ih (start + 1) with ⟨digits, coefficient, low, high, found, hit, missed⟩ | missed
      · refine .inl ⟨digits, coefficient, by omega, by omega, found, hit, fun coarser under beyond => ?_⟩
        rcases step under with rfl | next
        · exact first
        · exact missed coarser next beyond
      · refine .inr fun digits low high => ?_
        rcases step low with rfl | next
        · exact first
        · exact missed digits next (by omega)

end RoundingInterval

/-- How the search for digits ends: on the coarsest grid that has a number in the interval. -/
structure RoundingInterval.Searched (interval : RoundingInterval) (leading : Int) (digits : Nat)
    (found : DigitString) : Prop where
  /-- Seventeen digits are the most. -/
  fine : digits ≤ 16
  /-- The digits stand at the places of the grid. -/
  place : found.leading = leading - digits + digitCount found.coefficient - 1
  /-- There are some. -/
  filled : 0 < found.coefficient
  /-- There is at most one more than places, and then it is a zero. -/
  few : found.coefficient ≤ 10 ^ (digits + 1)
  /-- They spell a number of the interval. -/
  inside : interval.Contains (found.coefficient * 10 ^ (leading - digits))
  /-- No other number of the grid that is in the interval is nearer to the middle. -/
  nearest : ∀ other : Nat, interval.Contains (other * 10 ^ (leading - digits)) →
    |found.coefficient * 10 ^ (leading - digits) - interval.center| ≤
      |other * 10 ^ (leading - digits) - interval.center|
  /-- No grid that is coarser has one. -/
  missed : ∀ coarser < digits, ∀ other : Nat,
    ¬ interval.Contains (other * 10 ^ (leading - coarser : Int))

/-- The leading power of a positive fraction is that of its first digit. -/
theorem leadingPower_bounds {num den : Nat} (numPos : 0 < num) (denPos : 0 < den) :
    (10 : ℚ) ^ leadingPower num den ≤ num / den ∧
      (num : ℚ) / den < 10 ^ (leadingPower num den + 1) := by
  have top : (0 : ℚ) < num := Nat.cast_pos.mpr numPos
  have bottom : (0 : ℚ) < den := Nat.cast_pos.mpr denPos
  rw [leadingPower]
  split_ifs with large
  · -- The whole part has as many digits as the fraction has before the point.
    obtain ⟨low, high⟩ := decimal_bounds (Nat.div_pos large denPos) 0
    rw [zpow_zero, mul_one, zero_add] at low high
    obtain ⟨floor, ceiling⟩ := natDiv_bounds num denPos
    have next : (num / den : Nat) + 1 ≤ (10 : ℚ) ^ (digitCount (num / den) : Int) := by
      rw [zpow_natCast] at high ⊢
      exact_mod_cast high
    refine ⟨low.trans floor, ?_⟩
    rw [sub_add_cancel]
    exact ceiling.trans_le next
  · -- Below one, the inverse has as many digits as there are places up to the first digit.
    have small : num < den := Nat.lt_of_not_le large
    obtain ⟨low, high⟩ := decimal_bounds (Nat.div_pos (Nat.le_sub_one_of_lt small) numPos) 0
    rw [zpow_zero, mul_one, zero_add] at low high
    -- The inverse is rounded up to the next whole number, less one.
    obtain ⟨floor, ceiling⟩ : (((den - 1) / num : Nat) : ℚ) * num < den ∧
        (den : ℚ) ≤ ((den - 1) / num + 1 : Nat) * num := by
      have floor := Nat.div_mul_le_self (den - 1) num
      have ceiling := (Nat.div_lt_iff_lt_mul numPos).mp (Nat.lt_succ_self ((den - 1) / num))
      constructor
      · exact_mod_cast (by omega : (den - 1) / num * num < den)
      · exact_mod_cast (by rw [Nat.succ_eq_add_one] at ceiling; omega :
          den ≤ ((den - 1) / num + 1) * num)
    have next : (((den - 1) / num + 1 : Nat) : ℚ) ≤ 10 ^ (digitCount ((den - 1) / num) : Int) := by
      rw [zpow_natCast] at high ⊢
      exact_mod_cast high
    constructor
    · rw [zpow_neg, le_div_iff₀ bottom, inv_mul_le_iff₀ (by positivity)]
      exact ceiling.trans (mul_le_mul_of_nonneg_right next top.le)
    · have flipped : -(digitCount ((den - 1) / num) : Int) + 1 =
          -((digitCount ((den - 1) / num) : Int) - 1) := by omega
      rw [flipped, zpow_neg, div_lt_iff₀ bottom, ← div_eq_inv_mul, lt_div_iff₀ (by positivity),
        mul_comm]
      exact (mul_le_mul_of_nonneg_right low top.le).trans_lt floor

namespace Binary64

variable {mantissa : Nat} {exponent : Int}

/-- The numbers that round to a positive one are positive, and it is among them. -/
theorem interval_proper (positive : 0 < mantissa) (exponent : Int) :
    (interval mantissa exponent).IsProper := by
  -- A positive mantissa has room below itself, and some above.
  constructor <;> simp only [interval]
  · split_ifs <;> omega
  · split_ifs <;> omega
  · omega

/-- The middle of its interval is the number itself. -/
theorem center_interval (mantissa : Nat) (exponent : Int) :
    (interval mantissa exponent).center = mantissa * 2 ^ exponent := by
  -- The middle is the mantissa in quarters of the last place.
  simp only [RoundingInterval.center, interval, Nat.cast_mul, zpow_sub₀ (two_ne_zero' ℚ)]
  ring

/-- Seventeen digits are enough: on the grid of the last one, a number rounds to the given one. -/
theorem contains_finest (held : IsBinary64 mantissa exponent) (positive : 0 < mantissa)
    {leading : Int} (first : (10 : ℚ) ^ leading ≤ mantissa * 2 ^ exponent) :
    ∃ coefficient : Nat,
      (interval mantissa exponent).Contains (coefficient * 10 ^ (leading - 16)) := by
  obtain ⟨low, high⟩ := (interval mantissa exponent).center_between (leading - 16)
  rw [center_interval] at low high
  have size : (0 : ℚ) < 2 ^ exponent := by positivity
  generalize (interval mantissa exponent).multipleBelow (leading - 16) = below at low high
  -- A step of the grid is shorter than the gap in which numbers round to this one.
  obtain ⟨step, grid, short⟩ : ∃ step : ℚ, (10 : ℚ) ^ (leading - 16) = step * 2 ^ exponent ∧
      step ≤ mantissa / 10 ^ 16 := by
    refine ⟨10 ^ (leading - 16) / 2 ^ exponent, (div_mul_cancel₀ _ size.ne').symm, ?_⟩
    rw [div_le_iff₀ size, zpow_sub₀ (by norm_num), div_mul_eq_mul_div]
    exact div_le_div_of_nonneg_right first (by positivity)
  have gap : step < lowerReach mantissa exponent + 1 / 2 := by
    have bits : mantissa / (10 : ℚ) ^ 16 < 1 := by
      rw [div_lt_one (by positivity)]
      exact_mod_cast held.few.trans (by norm_num)
    unfold lowerReach
    split_ifs with half
    · rw [half.1] at short
      norm_num at short ⊢
      linarith
    · linarith
  rw [grid, ← mul_assoc] at low high
  have low := le_of_mul_le_mul_right low size
  have high := lt_of_mul_lt_mul_right high size.le
  have place (x : ℚ) : x * 10 ^ (leading - 16) / 2 ^ exponent = x * step := by
    rw [grid, ← mul_assoc, mul_div_cancel_right₀ _ size.ne']
  -- One of the two neighbours of the middle is in the gap.
  have reach := (lowerReach_bounds mantissa exponent).1
  by_cases near : mantissa - lowerReach mantissa exponent < below * step
  · refine ⟨below, (contains_interval_iff positive).mpr ?_⟩
    rw [place]
    exact ⟨.inl near, .inl (by linarith)⟩
  · refine ⟨below + 1, (contains_interval_iff positive).mpr ?_⟩
    rw [place, Nat.cast_succ]
    exact ⟨.inl (by linarith), .inl (by linarith)⟩

/-- The search for the digits of a positive number ends. -/
theorem exists_searched (held : IsBinary64 mantissa exponent) (positive : 0 < mantissa) :
    ∃ leading : Int, (10 : ℚ) ^ leading ≤ mantissa * 2 ^ exponent ∧
      mantissa * 2 ^ exponent < (10 : ℚ) ^ (leading + 1) ∧
      ∃ digits, (interval mantissa exponent).Searched leading digits (shortest mantissa exponent) := by
  have proper := interval_proper positive exponent
  obtain ⟨denPos, value⟩ := fraction_eq mantissa exponent
  -- The number is positive, so its fraction is.
  have numPos : 0 < (fraction mantissa exponent).1 := by
    refine Nat.pos_of_ne_zero fun zero => ?_
    rw [zero, Nat.cast_zero, zero_div] at value
    exact (by positivity : (mantissa : ℚ) * 2 ^ exponent ≠ 0) value.symm
  obtain ⟨low, high⟩ := leadingPower_bounds numPos denPos
  rw [value] at low high
  have unfolded : shortest mantissa exponent = ((interval mantissa exponent).firstGrid?
      (leadingPower (fraction mantissa exponent).1 (fraction mantissa exponent).2)
      (List.range' 0 17)).getD ⟨0, 0⟩ := rfl
  rw [unfolded]
  generalize leadingPower _ _ = leading at low high ⊢
  refine ⟨leading, low, high, ?_⟩
  -- Some grid is hit, since the finest one is.
  rcases (interval mantissa exponent).firstGrid?_range leading 0 17 with
    ⟨digits, coefficient, _, fine, found, hit, missed⟩ | missed
  · obtain ⟨filled, inside, near⟩ := RoundingInterval.onGrid?_some hit
    rw [found]
    refine ⟨digits, ⟨by omega, rfl, filled, ?_, inside, fun other => proper.onGrid?_nearest hit,
      fun coarser less => proper.onGrid?_none (missed coarser (Nat.zero_le _) less)⟩⟩
    -- The neighbour below the middle has no more digits than the grid allows.
    have below := (((interval mantissa exponent).center_between (leading - digits)).1).trans_lt
      ((center_interval mantissa exponent).trans_lt high)
    rw [← lt_div_iff₀ (by positivity), ← zpow_sub₀ (by norm_num)] at below
    have width : leading + 1 - (leading - digits) = ((digits + 1 : Nat) : Int) := by omega
    rw [width, zpow_natCast] at below
    exact near.trans (by exact_mod_cast below)
  · obtain ⟨coefficient, inside⟩ := contains_finest held positive low
    exact absurd inside (proper.onGrid?_none (missed 16 (by decide) (by decide)) coefficient)

/-- Next to a decimal of the interval with few digits there is a number on their grid, and it is as near. -/
theorem exists_onGrid {leading : Int} {digits other : Nat} {power : Int} (positive : 0 < mantissa)
    (low : (10 : ℚ) ^ leading ≤ mantissa * 2 ^ exponent)
    (high : mantissa * 2 ^ exponent < (10 : ℚ) ^ (leading + 1))
    (inside : (interval mantissa exponent).Contains (other * 10 ^ power))
    (few : digitCount other ≤ digits + 1) :
    ∃ near : Nat, (interval mantissa exponent).Contains (near * 10 ^ (leading - digits)) ∧
      |(near : ℚ) * 10 ^ (leading - digits) - (interval mantissa exponent).center| ≤
        |other * 10 ^ power - (interval mantissa exponent).center| := by
  have proper := interval_proper positive exponent
  have center := proper.contains_center
  rw [← center_interval] at low high
  have filled : 0 < other := by
    by_contra zero
    rw [Nat.eq_zero_of_not_pos zero, Nat.cast_zero, zero_mul] at inside
    exact lt_irrefl _ (proper.pos_of_contains inside)
  obtain ⟨least, most⟩ := decimal_bounds filled power
  have grid (places : Nat) : ((10 ^ places : Nat) : ℚ) * 10 ^ (leading - digits) =
      10 ^ (leading - digits + places) := by
    rw [zpow_add₀ (by norm_num), zpow_natCast, mul_comm]
    push_cast
    rfl
  rcases Int.lt_trichotomy (power + digitCount other - 1) leading with before | same | behind
  · -- Its first digit stands behind that of the middle: a power of ten is between them.
    have between : other * (10 : ℚ) ^ power ≤ 10 ^ leading :=
      most.le.trans (zpow_le_zpow_right₀ (by norm_num) (by omega))
    have place : leading - digits + (digits : Nat) = leading := by omega
    refine ⟨10 ^ digits, ?_, ?_⟩ <;> rw [grid, place]
    · exact inside.between center between low
    · rw [abs_of_nonpos (sub_nonpos.mpr low), abs_of_nonpos (sub_nonpos.mpr (between.trans low))]
      linarith
  · -- Its first digit stands where that of the middle does: it is on the grid itself.
    have place : leading - digits + (power - (leading - digits)).toNat = power := by omega
    have same : ((other * 10 ^ (power - (leading - digits)).toNat : Nat) : ℚ) *
        10 ^ (leading - digits) = other * 10 ^ power := by
      rw [Nat.cast_mul, mul_assoc, grid, place]
    refine ⟨other * 10 ^ (power - (leading - digits)).toNat, ?_, ?_⟩ <;> rw [same]
    exact inside
  · -- Its first digit stands before that of the middle.
    have between : (10 : ℚ) ^ (leading + 1) ≤ other * 10 ^ power :=
      (zpow_le_zpow_right₀ (by norm_num) (by omega)).trans least
    have place : leading - digits + (digits + 1 : Nat) = leading + 1 := by omega
    refine ⟨10 ^ (digits + 1), ?_, ?_⟩ <;> rw [grid, place]
    · exact center.between inside high.le between
    · rw [abs_of_nonneg (sub_nonneg.mpr high.le),
        abs_of_nonneg (sub_nonneg.mpr (high.le.trans between))]
      linarith

variable {leading : Int} {digits other : Nat} {power : Int} {found : DigitString}

/-- The search does not miss a decimal with fewer digits than the grid. -/
theorem searched_fewest (positive : 0 < mantissa) (low : (10 : ℚ) ^ leading ≤ mantissa * 2 ^ exponent)
    (high : mantissa * 2 ^ exponent < (10 : ℚ) ^ (leading + 1))
    (searched : (interval mantissa exponent).Searched leading digits found)
    (inside : (interval mantissa exponent).Contains (other * 10 ^ power)) :
    digits + 1 ≤ digitCount other := by
  -- A decimal with fewer digits lies on a coarser grid, and the search would have found it there.
  by_contra! short
  have count := digitCount_pos other
  obtain ⟨near, hit, _⟩ := exists_onGrid positive low high inside
    (by omega : digitCount other ≤ digitCount other - 1 + 1)
  exact searched.missed (digitCount other - 1) (by omega) near hit

/-- Nor does it miss a nearer one with as many. -/
theorem searched_nearest (positive : 0 < mantissa) (low : (10 : ℚ) ^ leading ≤ mantissa * 2 ^ exponent)
    (high : mantissa * 2 ^ exponent < (10 : ℚ) ^ (leading + 1))
    (searched : (interval mantissa exponent).Searched leading digits found)
    (inside : (interval mantissa exponent).Contains (other * 10 ^ power))
    (few : digitCount other ≤ digits + 1) :
    |found.coefficient * 10 ^ (leading - digits) - (interval mantissa exponent).center| ≤
      |other * 10 ^ power - (interval mantissa exponent).center| := by
  -- The decimal has a neighbour on the grid of the search that is not farther than itself.
  obtain ⟨near, hit, closer⟩ := exists_onGrid positive low high inside few
  exact (searched.nearest near hit).trans closer

end Binary64

end Joinery
