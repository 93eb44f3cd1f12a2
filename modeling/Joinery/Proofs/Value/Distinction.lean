import Joinery.Proofs.Value.Identity
import Mathlib.NumberTheory.Padics.PadicVal.Basic

/-! Values have one identity exactly when they are equal, numbers whatever form they are written in. -/

namespace Joinery

/-- The number that a value is. -/
def Value.number? : Value → Option ℚ
  | .bool truth => some (if truth then 1 else 0)
  | .int n => some n
  | .float (.finite negative mantissa exponent _) => some (signed negative mantissa * 2 ^ exponent)
  | .decimal (.finite negative coefficient exponent) =>
    some (signed negative coefficient * 10 ^ exponent)
  | _ => none

/-- Whether an infinite value is below zero. -/
def Value.infinity? : Value → Option Bool
  | .float (.infinite negative) => some negative
  | .decimal (.infinite negative) => some negative
  | _ => none

/--
When two values are equal.

Numbers of all kinds are equal by their value. What is no number equals nothing, not even itself.
-/
inductive Value.Equal : Value → Value → Prop where
  /-- Both are missing. -/
  | nothing : Equal .null .null
  /-- Both are the same number. -/
  | number {a b : Value} {x : ℚ} (left : a.number? = some x) (right : b.number? = some x) : Equal a b
  /-- Both are infinite on the same side. -/
  | infinite {a b : Value} {negative : Bool} (left : a.infinity? = some negative)
    (right : b.infinity? = some negative) : Equal a b
  /-- Both are the same text. -/
  | text (s : String) : Equal (.text s) (.text s)
  /-- Both are what clocks of unknown zones show alike. -/
  | local (time : LocalTime) : Equal (.moment ⟨time, none⟩) (.moment ⟨time, none⟩)
  /-- Both are one point on the line of universal time. -/
  | instant {s t : LocalTime} {p q : Offset} (same : (s.micros : Int) - p = t.micros - q) :
    Equal (.moment ⟨s, some p⟩) (.moment ⟨t, some q⟩)
  /-- Both are the same day. -/
  | day (day : Date) : Equal (.date day) (.date day)

/-- The number `magnitude * 2 ^ twos * 5 ^ fives` with a sign. -/
def scaledNumber (negative : Bool) (magnitude : Nat) (twos fives : Int) : ℚ :=
  signed negative magnitude * 2 ^ twos * 5 ^ fives

/-- Nothing is left of a factor that was divided out. -/
theorem not_dvd_stripFactor (factor : Nat) (large : 1 < factor) {n : Nat} (positive : 0 < n) :
    ¬ factor ∣ (stripFactor factor large n).1 := by
  -- Division goes on as long as the factor divides.
  induction n using stripFactor.induct factor large with
  | case1 n divides core count equal ih =>
    rw [stripFactor, dif_pos divides]
    simp only [equal] at ih ⊢
    exact ih (Nat.div_pos (Nat.le_of_dvd positive (Nat.dvd_of_mod_eq_zero divides.2)) (by omega))
  | case2 n divides =>
    rw [stripFactor, dif_neg divides]
    exact fun divided => divides ⟨positive, Nat.mod_eq_zero_of_dvd divided⟩

/-- A positive number is a core without the factors two and five, times powers of these. -/
theorem Identity.exists_core (negative : Bool) {magnitude : Nat} (positive : 0 < magnitude)
    (twos fives : Int) : ∃ core two five,
      ofScaled negative magnitude twos fives = .number negative core two five ∧
      ¬ 2 ∣ core ∧ ¬ 5 ∣ core ∧
      scaledNumber negative magnitude twos fives = scaledNumber negative core two five := by
  -- First the factors two are divided out, then the factors five.
  obtain ⟨odd, moreTwos, stripped⟩ : ∃ odd moreTwos,
      stripFactor 2 (by decide) magnitude = (odd, moreTwos) := ⟨_, _, rfl⟩
  obtain ⟨core, moreFives, strippedAgain⟩ : ∃ core moreFives,
      stripFactor 5 (by decide) odd = (core, moreFives) := ⟨_, _, rfl⟩
  have whole : odd * 2 ^ moreTwos = magnitude := by
    have product := stripFactor_mul 2 (by decide) magnitude
    rwa [stripped] at product
  have part : core * 5 ^ moreFives = odd := by
    have product := stripFactor_mul 5 (by decide) odd
    rwa [strippedAgain] at product
  have noTwo : ¬ 2 ∣ odd := by
    have none := not_dvd_stripFactor 2 (by decide) positive
    rwa [stripped] at none
  have noFive : ¬ 5 ∣ core := by
    have some : 0 < odd := Nat.pos_of_ne_zero fun zero => noTwo (zero ▸ Nat.dvd_zero 2)
    have none := not_dvd_stripFactor 5 (by decide) some
    rwa [strippedAgain] at none
  -- The core is what both divisions leave, and the powers count them.
  refine ⟨core, twos + moreTwos, fives + moreFives, ?_, ?_, noFive, ?_⟩
  · simp only [ofScaled, if_neg positive.ne', stripped, strippedAgain]
  · exact fun divided => noTwo (part ▸ Dvd.dvd.mul_right divided _)
  · unfold scaledNumber
    rw [← whole, ← part, signed_mul, signed_mul, zpow_add₀ (by norm_num), zpow_add₀ (by norm_num),
      zpow_natCast, zpow_natCast]
    push_cast
    ring

/-- What a factor does not divide is positive. -/
theorem pos_of_not_dvd {factor n : Nat} (apart : ¬ factor ∣ n) : 0 < n :=
  Nat.pos_of_ne_zero fun zero => apart (zero ▸ Nat.dvd_zero factor)

/-- A signed magnitude is zero only if the magnitude is. -/
theorem signed_ne_zero {negative : Bool} {magnitude : Nat} (positive : 0 < magnitude) :
    (signed negative magnitude : ℚ) ≠ 0 := by
  -- The sign changes nothing about being zero.
  rw [Int.cast_ne_zero]
  cases negative <;> simp [signed, positive.ne']

/-- A number that is put together from a positive magnitude is not zero. -/
theorem scaledNumber_ne_zero {negative : Bool} {magnitude : Nat} (positive : 0 < magnitude)
    (twos fives : Int) : scaledNumber negative magnitude twos fives ≠ 0 :=
  -- Neither the core nor a power of two or of five is zero.
  mul_ne_zero (mul_ne_zero (signed_ne_zero positive) (zpow_ne_zero _ (by norm_num)))
    (zpow_ne_zero _ (by norm_num))

/-- How often a prime divides a number with a sign is told by its magnitude. -/
theorem padicValRat_signed (p : Nat) (negative : Bool) (magnitude : Nat) :
    padicValRat p (signed negative magnitude) = padicValNat p magnitude := by
  -- A sign is no prime factor.
  cases negative with
  | false => exact padicValRat.of_nat
  | true =>
    rw [signed, if_pos rfl, Int.cast_neg, padicValRat.neg]
    exact padicValRat.of_nat

/-- How often a prime divides a number is the sum over its factors. -/
theorem padicValRat_scaledNumber (p : Nat) [Fact p.Prime] (negative : Bool) {core : Nat}
    (positive : 0 < core) (twos fives : Int) :
    padicValRat p (scaledNumber negative core twos fives) =
      padicValNat p core + twos * padicValNat p 2 + fives * padicValNat p 5 := by
  -- None of the three factors is zero, so the counts add up.
  have whole : (signed negative core : ℚ) ≠ 0 := signed_ne_zero positive
  have two : (2 : ℚ) ^ twos ≠ 0 := zpow_ne_zero _ (by norm_num)
  have five : (5 : ℚ) ^ fives ≠ 0 := zpow_ne_zero _ (by norm_num)
  have own (n : Nat) : padicValRat p n = padicValNat p n := padicValRat.of_nat
  rw [scaledNumber, padicValRat.mul (mul_ne_zero whole two) five, padicValRat.mul whole two,
    padicValRat.zpow, padicValRat.zpow, padicValRat_signed, ← own 2, ← own 5]
  rfl

/-- Powers of two and of five are read off a number whose core has neither factor. -/
theorem exponents_of_scaledNumber {s t : Bool} {c d : Nat} {e f e' f' : Int}
    (odd : ¬ 2 ∣ c) (odd' : ¬ 2 ∣ d) (plain : ¬ 5 ∣ c) (plain' : ¬ 5 ∣ d)
    (same : scaledNumber s c e f = scaledNumber t d e' f') : e = e' ∧ f = f' := by
  have five : Fact (Nat.Prime 5) := ⟨Nat.prime_five⟩
  have byTwo := congrArg (padicValRat 2) same
  have byFive := congrArg (padicValRat 5) same
  -- Neither prime divides a core or the other prime.
  rw [padicValRat_scaledNumber 2 _ (pos_of_not_dvd odd),
    padicValRat_scaledNumber 2 _ (pos_of_not_dvd odd'), padicValNat.eq_zero_of_not_dvd odd,
    padicValNat.eq_zero_of_not_dvd odd', padicValNat_self,
    padicValNat.eq_zero_of_not_dvd (by norm_num : ¬ 2 ∣ 5)] at byTwo
  rw [padicValRat_scaledNumber 5 _ (pos_of_not_dvd odd),
    padicValRat_scaledNumber 5 _ (pos_of_not_dvd odd'), padicValNat.eq_zero_of_not_dvd plain,
    padicValNat.eq_zero_of_not_dvd plain', padicValNat_self,
    padicValNat.eq_zero_of_not_dvd (by norm_num : ¬ 5 ∣ 2)] at byFive
  constructor <;> omega

/-- A positive number does not have the identity of zero. -/
theorem Identity.ofScaled_ne_zero {negative : Bool} {magnitude : Nat} (positive : 0 < magnitude)
    (twos fives : Int) : ofScaled negative magnitude twos fives ≠ .number false 0 0 0 := by
  -- Its core is odd, and zero is not.
  obtain ⟨core, _, _, identity, odd, _, _⟩ := exists_core negative positive twos fives
  rw [identity]
  rintro same
  exact (pos_of_not_dvd odd).ne' (Identity.number.inj same).2.1

/-- Numbers have one identity exactly when they are equal. -/
theorem Identity.ofScaled_eq_iff {s t : Bool} {m n : Nat} {e f e' f' : Int} :
    ofScaled s m e f = ofScaled t n e' f' ↔ scaledNumber s m e f = scaledNumber t n e' f' := by
  -- Zero has one identity, whatever its sign and its powers.
  have none (s : Bool) (e f : Int) : scaledNumber s 0 e f = 0 := by
    cases s <;> simp [scaledNumber, signed]
  have zero (s : Bool) (e f : Int) : ofScaled s 0 e f = .number false 0 0 0 := rfl
  rcases Nat.eq_zero_or_pos m with rfl | positive <;> rcases Nat.eq_zero_or_pos n with rfl | positive'
  · rw [zero, zero, none, none]
    exact iff_of_true rfl rfl
  · rw [zero, none]
    exact iff_of_false (ofScaled_ne_zero positive' _ _).symm (scaledNumber_ne_zero positive' _ _).symm
  · rw [zero, none]
    exact iff_of_false (ofScaled_ne_zero positive _ _) (scaledNumber_ne_zero positive _ _)
  · obtain ⟨c, a, b, identity, odd, plain, value⟩ := exists_core s positive e f
    obtain ⟨d, a', b', identity', odd', plain', value'⟩ := exists_core t positive' e' f'
    rw [identity, identity', value, value']
    constructor
    · intro same
      obtain ⟨rfl, rfl, rfl, rfl⟩ := Identity.number.inj same
      rfl
    · intro same
      -- The exponents agree, and what is left are the signed cores.
      obtain ⟨rfl, rfl⟩ := exponents_of_scaledNumber odd odd' plain plain' same
      have two : (2 : ℚ) ^ a ≠ 0 := zpow_ne_zero _ (by norm_num)
      have five : (5 : ℚ) ^ b ≠ 0 := zpow_ne_zero _ (by norm_num)
      have cores := Int.cast_injective (mul_right_cancel₀ two (mul_right_cancel₀ five same))
      obtain ⟨rfl, rfl⟩ := signed_inj (pos_of_not_dvd odd) cores
      rfl

/-- A value that is a number has the identity of the number. -/
theorem Value.exists_scaled {value : Value} {x : ℚ} (known : value.number? = some x) :
    ∃ negative magnitude twos fives,
      value.distinction = .by (.ofScaled negative magnitude twos fives) ∧
        scaledNumber negative magnitude twos fives = x := by
  -- Truth values and whole numbers have no powers of two or five beside them.
  have whole (n : Int) : scaledNumber (n < 0) n.natAbs 0 0 = n := by
    rw [scaledNumber, signed_natAbs]
    simp
  cases value with
  | bool truth =>
    cases known
    refine ⟨_, _, _, _, rfl, (whole _).trans ?_⟩
    cases truth <;> simp
  | int n =>
    cases known
    exact ⟨_, _, _, _, rfl, whole n⟩
  | float number =>
    cases number with
    | finite negative mantissa exponent _ =>
      cases known
      exact ⟨_, _, _, _, rfl, by simp [scaledNumber]⟩
    | _ => contradiction
  | decimal number =>
    cases number with
    | finite negative coefficient exponent =>
      cases known
      -- A power of ten is one of two and one of five.
      refine ⟨_, _, _, _, rfl, ?_⟩
      rw [scaledNumber, mul_assoc, ← mul_zpow]
      norm_num
    | _ => contradiction
  | _ => contradiction

/-- An infinite value has the identity of its side. -/
theorem Value.distinction_of_infinity {value : Value} {negative : Bool}
    (known : value.infinity? = some negative) : value.distinction = .by (.infinite negative) := by
  -- Only two kinds of numbers can be infinite.
  cases value with
  | float number => cases number <;> cases known; exact rfl
  | decimal number => cases number <;> cases known; exact rfl
  | _ => contradiction

/-- What an identity says about the values that have it. -/
def Identity.Describes : Identity → Value → Prop
  | .nothing, value => value = .null
  | .number .., value => ∃ x, value.number? = some x
  | .infinite negative, value => value.infinity? = some negative
  | .text s, value => value = .text s
  | .local time, value => value = .moment ⟨time, none⟩
  | .instant micros, value =>
    ∃ time : LocalTime, ∃ offset : Offset, value = .moment ⟨time, some offset⟩ ∧ time.micros - offset.val = micros
  | .day date, value => value = .date date

/-- Every value that has an identity is described by it. -/
theorem Value.described {value : Value} {identity : Identity}
    (known : value.distinction = .by identity) : identity.Describes value := by
  -- All kinds of numbers are described by the number that they are.
  have number (negative : Bool) (magnitude : Nat) (twos fives : Int) {x : ℚ}
      (found : value.number? = some x) :
      (Identity.ofScaled negative magnitude twos fives).Describes value := by
    obtain ⟨_, _, _, _, scaled⟩ := Identity.ofScaled_eq_number negative magnitude twos fives
    rw [scaled]
    exact ⟨x, found⟩
  cases value with
  | null | text | date => cases known; exact rfl
  | bool | int => cases known; exact number _ _ _ _ rfl
  | float x =>
    cases x with
    | nan => contradiction
    | infinite => cases known; exact rfl
    | finite => cases known; exact number _ _ _ _ rfl
  | decimal d =>
    cases d with
    | nan _ signaling => cases signaling <;> contradiction
    | infinite => cases known; exact rfl
    | finite => cases known; exact number _ _ _ _ rfl
  | moment m =>
    obtain ⟨time, offset⟩ := m
    cases offset with
    -- Without an offset a moment is told from all others by its local time.
    | none => cases known; exact rfl
    | some offset => cases known; exact ⟨time, offset, rfl, rfl⟩
  | list | map => contradiction

/-- Two values have one identity exactly when they are equal. -/
theorem Value.equal_iff {a b : Value} :
    a.Equal b ↔ ∃ identity, a.distinction = .by identity ∧ b.distinction = .by identity := by
  constructor
  · intro equal
    cases equal with
    -- Values of most kinds are equal only to themselves.
    | nothing | text | «local» | day => exact ⟨_, rfl, rfl⟩
    | number left right =>
      obtain ⟨_, _, _, _, identity, value⟩ := exists_scaled left
      obtain ⟨_, _, _, _, identity', value'⟩ := exists_scaled right
      exact ⟨_, identity, identity'.trans (congrArg _ (Identity.ofScaled_eq_iff.mpr (value'.trans value.symm)))⟩
    | infinite left right => exact ⟨_, distinction_of_infinity left, distinction_of_infinity right⟩
    | instant same => exact ⟨_, rfl, congrArg (Distinction.by ∘ Identity.instant) same.symm⟩
  · rintro ⟨identity, left, right⟩
    have first := described left
    have second := described right
    -- The identity tells of what kind both values are.
    cases identity with
    | nothing => rw [show a = _ from first, show b = _ from second]; exact .nothing
    | number =>
      obtain ⟨x, found⟩ := first
      obtain ⟨y, found'⟩ := second
      obtain ⟨_, _, _, _, scaled, value⟩ := exists_scaled found
      obtain ⟨_, _, _, _, scaled', value'⟩ := exists_scaled found'
      have same := Distinction.by.inj ((scaled.symm.trans left).trans (right.symm.trans scaled'))
      have equal : x = y := value.symm.trans ((Identity.ofScaled_eq_iff.mp same).trans value')
      exact .number found (equal ▸ found')
    | infinite => exact .infinite first second
    | text => rw [show a = _ from first, show b = _ from second]; exact .text _
    | «local» => rw [show a = _ from first, show b = _ from second]; exact .local _
    | instant =>
      obtain ⟨s, p, rfl, micros⟩ := first
      obtain ⟨t, q, rfl, micros'⟩ := second
      exact .instant (micros.trans micros'.symm)
    | day => rw [show a = _ from first, show b = _ from second]; exact .day _

end Joinery
