import Joinery.Number.Shortest
import Joinery.Proofs.Number.Magnitude
import Mathlib.Tactic.FieldSimp
import Mathlib.Tactic.Linarith
import Mathlib.Tactic.Positivity
import Mathlib.Tactic.Ring

/-! A fraction is rounded to a binary number exactly when it lies in the interval of that number. -/

namespace Joinery

/-- A whole number next to a number: no other is nearer, and of two equally near ones it is the even one. -/
structure RoundsTo (x : ℚ) (n : Nat) : Prop where
  /-- It is at most a half larger. -/
  above : (n : ℚ) - 1 / 2 ≤ x
  /-- It is at most a half smaller. -/
  below : x ≤ n + 1 / 2
  /-- It is even when it is a half away. -/
  even : (n : ℚ) - 1 / 2 = x ∨ x = n + 1 / 2 → n % 2 = 0

/-- There is one such number only. -/
theorem RoundsTo.unique {x : ℚ} {m n : Nat} (first : RoundsTo x m) (second : RoundsTo x n) : m = n := by
  -- Two of them would be neighbours with the number halfway between, and both even.
  have general {m n : Nat} (first : RoundsTo x m) (second : RoundsTo x n) : n ≤ m := by
    by_contra less
    have next : m + 1 ≤ n := by omega
    have castNext : (m : ℚ) + 1 ≤ n := by exact_mod_cast next
    have := first.below
    have := second.above
    have halfway : x = m + 1 / 2 := by linarith
    have neighbour : (n : ℚ) = m + 1 := by linarith
    have evenFirst := first.even (.inr halfway)
    have evenSecond := second.even (.inl (by linarith))
    have : n = m + 1 := by exact_mod_cast neighbour
    omega
  exact Nat.le_antisymm (general second first) (general first second)

/-- A quotient is rounded to the whole number next to it. -/
theorem roundsTo_roundHalfEven (num : Nat) {den : Nat} (positive : 0 < den) :
    RoundsTo (num / den) (roundHalfEven num den) := by
  have size : (0 : ℚ) < den := Nat.cast_pos.mpr positive
  -- The quotient is a whole part and a rest below one, which is compared with a half.
  obtain ⟨rest, split, half, least⟩ : ∃ rest : ℚ, (num : ℚ) / den = (num / den : Nat) + rest ∧
      ((2 * (num % den) < den ↔ rest < 1 / 2) ∧ (den < 2 * (num % den) ↔ 1 / 2 < rest)) ∧
      0 ≤ rest ∧ rest < 1 := by
    have whole : (num : ℚ) = den * (num / den : Nat) + (num % den : Nat) := by
      exact_mod_cast (Nat.div_add_mod num den).symm
    have small : ((num % den : Nat) : ℚ) < den := Nat.cast_lt.mpr (Nat.mod_lt num positive)
    refine ⟨(num % den : Nat) / den, ?_, ⟨?_, ?_⟩, by positivity, (div_lt_one size).mpr small⟩
    · rw [div_eq_iff size.ne', add_mul, div_mul_cancel₀ _ size.ne', whole, mul_comm]
    · rw [div_lt_iff₀ size, ← Nat.cast_lt (α := ℚ)]
      push_cast
      constructor <;> intro less <;> linarith
    · rw [lt_div_iff₀ size, ← Nat.cast_lt (α := ℚ)]
      push_cast
      constructor <;> intro less <;> linarith
  rw [split, roundHalfEven]
  simp only [half.1, half.2]
  -- Below a half and above it one neighbour is nearer; at a half the even one is taken.
  split_ifs with less more even
  · exact ⟨by linarith, by linarith, by rintro (same | same) <;> linarith⟩
  · refine ⟨by push_cast; linarith, by push_cast; linarith, ?_⟩
    push_cast
    rintro (same | same) <;> linarith
  · exact ⟨by linarith, by linarith, fun _ => even⟩
  · exact ⟨by push_cast; linarith, by push_cast; linarith, fun _ => by omega⟩

/-- The mantissa of a number has at most fifty-three bits. -/
theorem IsBinary64.few {mantissa : Nat} {exponent : Int} (held : IsBinary64 mantissa exponent) :
    mantissa < 2 ^ 53 :=
  held.bits

namespace Binary64

/-- The exponent at which a positive number has fifty-three bits before the point, or the smallest one. -/
structure IsExponentOf (x : ℚ) (exponent : Int) : Prop where
  /-- It is not below the smallest one. -/
  low : smallestExponent ≤ exponent
  /-- There are at most fifty-three bits. -/
  below : x / 2 ^ exponent < 2 ^ 53
  /-- There are fifty-three of them, unless the exponent is the smallest one. -/
  above : smallestExponent < exponent → 2 ^ 52 ≤ x / 2 ^ exponent

/-- A number is at least twice as large on a grid that is finer. -/
theorem two_mul_div_le {x : ℚ} (positive : 0 < x) {e f : Int} (finer : e < f) :
    2 * (x / 2 ^ f) ≤ x / 2 ^ e := by
  -- The next power of two is twice the one before, and later ones are larger still.
  have power : (2 : ℚ) ^ e * 2 ≤ 2 ^ f := by
    rw [← zpow_add_one₀ (by norm_num)]
    exact zpow_le_zpow_right₀ (by norm_num) (by omega)
  have small : (0 : ℚ) < 2 ^ e := by positivity
  have large : (0 : ℚ) < 2 ^ f := by positivity
  rw [mul_div_assoc', div_le_div_iff₀ large small]
  nlinarith

/-- There is one such exponent only. -/
theorem IsExponentOf.unique {x : ℚ} (positive : 0 < x) {e f : Int} (first : IsExponentOf x e)
    (second : IsExponentOf x f) : e = f := by
  -- On the finer of two grids the number would have a bit too many.
  have general {e f : Int} (first : IsExponentOf x e) (second : IsExponentOf x f) : f ≤ e := by
    by_contra less
    have finer : e < f := by omega
    have := two_mul_div_le positive finer
    have := second.above (first.low.trans_lt finer)
    have := first.below
    linarith
  exact Int.le_antisymm (general second first) (general first second)

/-- A positive number lies between the power of two of its first bit and the next one. -/
theorem log2_bounds {n : Nat} (positive : 0 < n) :
    (2 : ℚ) ^ (n.log2 : Int) ≤ n ∧ (n : ℚ) < 2 * 2 ^ (n.log2 : Int) := by
  -- Both are known of natural powers.
  rw [zpow_natCast, ← pow_succ']
  exact ⟨mod_cast Nat.log2_self_le positive.ne', mod_cast Nat.lt_log2_self⟩

/-- Where the parts of a fraction have their first bits, it has fifty-two bits or fifty-three. -/
theorem guess_bounds {num den : Nat} (numPos : 0 < num) (denPos : 0 < den) :
    2 ^ 51 < (num : ℚ) / den / 2 ^ ((num.log2 : Int) - den.log2 - 52) ∧
      (num : ℚ) / den / 2 ^ ((num.log2 : Int) - den.log2 - 52) < 2 ^ 53 := by
  obtain ⟨numLow, numHigh⟩ := log2_bounds numPos
  obtain ⟨denLow, denHigh⟩ := log2_bounds denPos
  generalize (num.log2 : Int) = a, (den.log2 : Int) = b at *
  have size : (0 : ℚ) < den := Nat.cast_pos.mpr denPos
  have top : (0 : ℚ) < 2 ^ a := by positivity
  have bottom : (0 : ℚ) < 2 ^ b := by positivity
  have scale : (2 : ℚ) ^ (a - b - 52) = 2 ^ a / 2 ^ b / 2 ^ 52 := by
    rw [zpow_sub₀ (by norm_num), zpow_sub₀ (by norm_num)]
    norm_num
  -- Each part is known up to a factor of two, so their quotient is on either side.
  constructor
  · have same : (2 : ℚ) ^ 51 * (2 ^ a / 2 ^ b / 2 ^ 52) = 2 ^ a / (2 * 2 ^ b) := by
      field_simp
    rw [scale, lt_div_iff₀ (by positivity), same, div_lt_div_iff₀ (by positivity) size]
    calc (2 : ℚ) ^ a * den < 2 ^ a * (2 * 2 ^ b) := mul_lt_mul_of_pos_left denHigh top
      _ ≤ num * (2 * 2 ^ b) := mul_le_mul_of_nonneg_right numLow (by positivity)
  · have same : (2 : ℚ) ^ 53 * (2 ^ a / 2 ^ b / 2 ^ 52) = 2 * 2 ^ a / 2 ^ b := by ring
    rw [scale, div_lt_iff₀ (by positivity), same, div_lt_div_iff₀ size bottom]
    calc (num : ℚ) * 2 ^ b < 2 * 2 ^ a * 2 ^ b := mul_lt_mul_of_pos_right numHigh bottom
      _ ≤ 2 * 2 ^ a * den := mul_le_mul_of_nonneg_left denLow (by positivity)

/-- A fraction that is scaled has fewer than fifty-three bits where it lies below the full mantissa. -/
theorem scaled_lt_full_iff {num den : Nat} (denPos : 0 < den) (exponent : Int) :
    (scaleByTwo num den exponent).1 < fullMantissa * (scaleByTwo num den exponent).2 ↔
      (num : ℚ) / den / 2 ^ exponent < 2 ^ 52 := by
  -- The full mantissa is the power of two with fifty-three bits.
  obtain ⟨positive, ratio⟩ := scaleByTwo_eq num denPos exponent
  have full : (fullMantissa : ℚ) = 2 ^ 52 := by rw [fullMantissa, cast_powTwo]; rfl
  rw [← ratio, div_lt_iff₀ (Nat.cast_pos.mpr positive), ← full, ← Nat.cast_mul, Nat.cast_lt]

/-- The exponent of a fraction is found from the bits of its parts. -/
theorem isExponentOf_quotientExponent {num den : Nat} (numPos : 0 < num) (denPos : 0 < den) :
    IsExponentOf (num / den) (quotientExponent num den) := by
  obtain ⟨least, most⟩ := guess_bounds numPos denPos
  -- With one bit too few the exponent is one less than the guess.
  obtain ⟨e, same, below, above⟩ : ∃ e, quotientExponent num den = max e smallestExponent ∧
      (num : ℚ) / den / 2 ^ e < 2 ^ 53 ∧ 2 ^ 52 ≤ (num : ℚ) / den / 2 ^ e := by
    simp only [quotientExponent, scaled_lt_full_iff denPos]
    split_ifs with less
    · have half : (num : ℚ) / den / 2 ^ ((num.log2 : Int) - den.log2 - 52 - 1) =
          2 * (num / den / 2 ^ ((num.log2 : Int) - den.log2 - 52)) := by
        rw [zpow_sub_one₀ (by norm_num)]
        ring
      exact ⟨_, rfl, by rw [half]; linarith, by rw [half]; linarith⟩
    · exact ⟨_, rfl, most, not_lt.mp less⟩
  rw [same]
  rcases Int.lt_or_le e smallestExponent with under | beyond
  · -- A number that would need a smaller exponent has fewer bits at the smallest one.
    rw [max_eq_right under.le]
    have number : (0 : ℚ) < num / den := by positivity
    have halved := two_mul_div_le number under
    have some : 0 ≤ (num : ℚ) / den / 2 ^ smallestExponent := by positivity
    exact ⟨le_rfl, by linarith, fun less => absurd less (Int.lt_irrefl _)⟩
  · rw [max_eq_left beyond]
    exact ⟨beyond, below, fun _ => above⟩

/-- A number that is rounded at its exponent has its bits, so it is held unless the exponent is too large. -/
theorem IsExponentOf.isBinary64 {x : ℚ} {e : Int} {n : Nat} (own : IsExponentOf x e)
    (rounded : RoundsTo (x / 2 ^ e) n) (short : n ≠ 2 ^ 53) (high : e ≤ largestExponent) :
    IsBinary64 n e := by
  refine ⟨?_, own.low, high, or_iff_not_imp_right.mpr fun beyond => ?_⟩
  · -- There are no more bits than before the number was rounded.
    have above := rounded.above
    have below := own.below
    have next : (n : ℚ) < 2 ^ 53 + 1 := by linarith
    have few : n < 2 ^ 53 + 1 := by exact_mod_cast next
    show n < 2 ^ 53
    omega
  · have least := own.above (lt_of_le_of_ne own.low (Ne.symm beyond))
    have below := rounded.below
    have next : (2 : ℚ) ^ 52 < n + 1 := by linarith
    have many : 2 ^ 52 < n + 1 := by exact_mod_cast next
    exact Nat.lt_succ_iff.mp many

/-- A fraction is rounded at its exponent; a mantissa that has become too long goes to the next one. -/
theorem exists_ofRatio {num den : Nat} (numPos : 0 < num) (denPos : 0 < den) (negative : Bool) :
    ∃ e n, IsExponentOf (num / den) e ∧ RoundsTo ((num : ℚ) / den / 2 ^ e) n ∧
      ofRatio negative num den =
        let (mantissa, exponent) := if n = 2 ^ 53 then (2 ^ 52, e + 1) else (n, e)
        if held : IsBinary64 mantissa exponent then .finite negative mantissa exponent held
        else .infinite negative := by
  -- The quotient is scaled to its exponent and rounded there.
  obtain ⟨positive, ratio⟩ := scaleByTwo_eq num denPos (quotientExponent num den)
  refine ⟨_, _, isExponentOf_quotientExponent numPos denPos,
    ratio ▸ roundsTo_roundHalfEven _ positive, ?_⟩
  have full : fullMantissa = 2 ^ 52 := rfl
  have double : 2 * fullMantissa = 2 ^ 53 := rfl
  rw [ofRatio, if_neg numPos.ne', full]
  rfl

end Binary64

/-- A number lies between the ends of an interval, or is one of them where these belong to it. -/
structure RoundingInterval.Contains (interval : RoundingInterval) (x : ℚ) : Prop where
  /-- It is not below the lower end. -/
  above : interval.low < x / 2 ^ interval.exponent ∨
    interval.closed = true ∧ interval.low = x / 2 ^ interval.exponent
  /-- It is not above the upper end. -/
  below : x / 2 ^ interval.exponent < interval.high ∨
    interval.closed = true ∧ x / 2 ^ interval.exponent = interval.high

/-- How far the numbers below a mantissa that round to it can be away. -/
def lowerReach (mantissa : Nat) (exponent : Int) : ℚ :=
  if mantissa = 2 ^ 52 ∧ Binary64.smallestExponent < exponent then 1 / 4 else 1 / 2

/-- That is a half of the last place at most. -/
theorem lowerReach_bounds (mantissa : Nat) (exponent : Int) :
    0 < lowerReach mantissa exponent ∧ lowerReach mantissa exponent ≤ 1 / 2 := by
  -- It is a quarter or a half.
  unfold lowerReach
  split_ifs <;> norm_num

namespace Binary64

variable {mantissa : Nat} {exponent : Int} {x : ℚ}

/-- The interval of a mantissa reaches half a place up, and half or a quarter of one down. -/
theorem contains_interval_iff (positive : 0 < mantissa) : (interval mantissa exponent).Contains x ↔
    (mantissa - lowerReach mantissa exponent < x / 2 ^ exponent ∨
      mantissa % 2 = 0 ∧ mantissa - lowerReach mantissa exponent = x / 2 ^ exponent) ∧
    (x / 2 ^ exponent < mantissa + 1 / 2 ∨
      mantissa % 2 = 0 ∧ x / 2 ^ exponent = mantissa + 1 / 2) := by
  -- In quarters of the last place both ends are whole numbers.
  have quarter : x / 2 ^ (exponent - 2) = 4 * (x / 2 ^ exponent) := by
    rw [zpow_sub₀ (by norm_num)]
    ring
  have low : ((interval mantissa exponent).low : ℚ) =
      4 * (mantissa - lowerReach mantissa exponent) := by
    have full : fullMantissa = 2 ^ 52 := rfl
    simp only [interval, lowerReach, full]
    split_ifs
    · rw [Nat.cast_sub (by omega)]
      push_cast
      ring
    · rw [Nat.cast_sub (by omega)]
      push_cast
      ring
  -- The upper end is half a unit above, wherever the number lies.
  have high : ((interval mantissa exponent).high : ℚ) = 4 * (mantissa + 1 / 2) := by
    simp only [interval]
    push_cast
    ring
  have closed : (interval mantissa exponent).closed = true ↔ mantissa % 2 = 0 := by simp [interval]
  have less (a b : ℚ) : 4 * a < 4 * b ↔ a < b := by constructor <;> intro less <;> linarith
  have same (a b : ℚ) : 4 * a = 4 * b ↔ a = b := by constructor <;> intro same <;> linarith
  have place : (interval mantissa exponent).exponent = exponent - 2 := rfl
  rw [← less, ← less (x / 2 ^ exponent), ← same, ← same (x / 2 ^ exponent), ← quarter, ← low, ← high,
    ← closed, ← place]
  exact ⟨fun inside => ⟨inside.above, inside.below⟩, fun inside => ⟨inside.1, inside.2⟩⟩

/-- What is in the interval is not further away than it reaches. -/
theorem place_of_contains (positive : 0 < mantissa)
    (inside : (interval mantissa exponent).Contains x) :
    mantissa - lowerReach mantissa exponent ≤ x / 2 ^ exponent ∧
      x / 2 ^ exponent ≤ mantissa + 1 / 2 := by
  -- Each end is either passed or met.
  obtain ⟨above, below⟩ := (contains_interval_iff positive).mp inside
  exact ⟨above.elim le_of_lt fun same => same.2.le, below.elim le_of_lt fun same => same.2.le⟩

/-- A number is in the interval of the mantissa to which it is rounded. -/
theorem IsExponentOf.contains (own : IsExponentOf x exponent)
    (rounded : RoundsTo (x / 2 ^ exponent) mantissa) (positive : 0 < mantissa) :
    (interval mantissa exponent).Contains x := by
  rw [contains_interval_iff positive]
  have above := rounded.above
  have below := rounded.below
  constructor
  · unfold lowerReach
    split_ifs with short
    · -- Above the smallest exponent there is nothing below the smallest full mantissa.
      have least := own.above short.2
      rw [short.1]
      push_cast
      exact .inl (by linarith)
    · rcases above.lt_or_eq with less | same
      · exact .inl less
      · exact .inr ⟨rounded.even (.inl same), same⟩
  · rcases below.lt_or_eq with less | same
    · exact .inl less
    · exact .inr ⟨rounded.even (.inr same), same⟩

/-- A number that is rounded up to the next power of two is in the interval of that power. -/
theorem IsExponentOf.contains_next (own : IsExponentOf x exponent)
    (rounded : RoundsTo (x / 2 ^ exponent) (2 ^ 53)) :
    (interval (2 ^ 52) (exponent + 1)).Contains x := by
  -- Seen from the exponent of the power, the number is half as large.
  have half : x / 2 ^ (exponent + 1) = x / 2 ^ exponent / 2 := by
    rw [zpow_add_one₀ (by norm_num), div_mul_eq_div_div]
  have reach : lowerReach (2 ^ 52) (exponent + 1) = 1 / 4 := by
    have low := own.low
    exact if_pos ⟨rfl, by omega⟩
  rw [contains_interval_iff (by norm_num), half, reach]
  have above := rounded.above
  have below := own.below
  push_cast at above ⊢
  constructor
  · rcases above.lt_or_eq with less | same
    · exact .inl (by linarith)
    · exact .inr ⟨by norm_num, by linarith⟩
  · exact .inl (by linarith)

/-- A number in an interval is rounded to its mantissa, at its exponent or from the one before. -/
theorem rounds_of_contains (held : IsBinary64 mantissa exponent) (positive : 0 < mantissa)
    (inside : (interval mantissa exponent).Contains x) :
    IsExponentOf x exponent ∧ RoundsTo (x / 2 ^ exponent) mantissa ∨
      IsExponentOf x (exponent - 1) ∧ RoundsTo (x / 2 ^ (exponent - 1)) (2 ^ 53) ∧
        mantissa = 2 ^ 52 := by
  obtain ⟨above, below⟩ := (contains_interval_iff positive).mp inside
  have bits : (mantissa : ℚ) + 1 ≤ 2 ^ 53 := by exact_mod_cast held.few
  have reach := (lowerReach_bounds mantissa exponent).2
  obtain ⟨least, most⟩ := place_of_contains positive inside
  by_cases small : smallestExponent < exponent ∧ x / 2 ^ exponent < 2 ^ 52
  · -- Just below a power of two there is one bit more, at an exponent that is one less.
    obtain ⟨beyond, short⟩ := small
    have whole : mantissa = 2 ^ 52 := by
      have full : 2 ^ 52 ≤ mantissa := held.full.resolve_right beyond.ne'
      have next : (mantissa : ℚ) < 2 ^ 52 + 1 := by linarith
      have : mantissa < 2 ^ 52 + 1 := by exact_mod_cast next
      omega
    have double : x / 2 ^ (exponent - 1) = 2 * (x / 2 ^ exponent) := by
      rw [zpow_sub_one₀ (by norm_num)]
      ring
    rw [lowerReach, if_pos ⟨whole, beyond⟩, whole] at least
    push_cast at least
    refine .inr ⟨⟨by omega, by rw [double]; linarith, fun _ => by rw [double]; linarith⟩,
      ⟨?_, ?_, fun _ => by norm_num⟩, whole⟩
    · rw [double]
      push_cast
      linarith
    · rw [double]
      push_cast
      linarith
  -- Otherwise the number has its bits at the exponent itself.
  · refine .inl ⟨⟨held.low, by linarith, fun beyond => ?_⟩, ⟨by linarith, most, ?_⟩⟩
    · exact not_lt.mp fun short => small ⟨beyond, short⟩
    · rintro (same | same)
      · exact above.elim (fun less => by linarith) And.left
      · exact below.elim (fun less => by linarith) And.left

/-- A fraction is rounded to a positive number exactly when it is in the interval of that number. -/
theorem ofRatio_eq_finite_iff {num den : Nat} (held : IsBinary64 mantissa exponent)
    (positive : 0 < mantissa) (numPos : 0 < num) (denPos : 0 < den) (negative : Bool) :
    ofRatio negative num den = .finite negative mantissa exponent held ↔
      (interval mantissa exponent).Contains (num / den) := by
  obtain ⟨e, n, own, rounded, made⟩ := exists_ofRatio numPos denPos negative
  have number : (0 : ℚ) < num / den := by positivity
  rw [made]
  -- Each direction follows the rounding at the exponent of the fraction, and there is only one.
  constructor
  -- What was made is the number, or the one to which a mantissa that became too long was moved.
  · intro same
    split_ifs at same with long
    · subst long
      dsimp only at same
      split_ifs at same
      cases same
      exact own.contains_next rounded
    · dsimp only at same
      split_ifs at same
      cases same
      exact own.contains rounded positive
  -- The interval tells the rounding, which is unique.
  · intro inside
    rcases rounds_of_contains held positive inside with ⟨other, rounds⟩ | ⟨other, rounds, rfl⟩
    · obtain rfl := own.unique number other
      obtain rfl := rounded.unique rounds
      rw [if_neg held.few.ne]
      exact dif_pos held
    · obtain rfl := own.unique number other
      obtain rfl := rounded.unique rounds
      rw [if_pos rfl]
      dsimp only
      simp only [Int.sub_add_cancel]
      exact dif_pos held

end Binary64

end Joinery
