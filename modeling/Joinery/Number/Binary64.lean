import Joinery.Number.Decimal

/-! Binary floating-point numbers of sixty-four bits, held exactly. -/

namespace Joinery

/-- The exponent of the smallest numbers. -/
def Binary64.smallestExponent : Int := -1074

/-- The exponent of the largest numbers. -/
def Binary64.largestExponent : Int := 971

/-- The mantissas and exponents that sixty-four bits can hold, each number in one way. -/
structure IsBinary64 (mantissa : Nat) (exponent : Int) : Prop where
  /-- The mantissa has at most fifty-three bits. -/
  bits : mantissa < powTwo 53
  /-- The exponent is not below the smallest one. -/
  low : Binary64.smallestExponent ≤ exponent
  /-- It is not above the largest one. -/
  high : exponent ≤ Binary64.largestExponent
  /-- The mantissa has all its bits, unless the exponent is the smallest one. -/
  full : powTwo 52 ≤ mantissa ∨ exponent = Binary64.smallestExponent

instance (mantissa : Nat) (exponent : Int) : Decidable (IsBinary64 mantissa exponent) :=
  decidable_of_iff
    (mantissa < powTwo 53 ∧ Binary64.smallestExponent ≤ exponent ∧ exponent ≤ Binary64.largestExponent ∧
      (powTwo 52 ≤ mantissa ∨ exponent = Binary64.smallestExponent))
    ⟨fun ⟨bits, low, high, full⟩ => ⟨bits, low, high, full⟩,
      fun ⟨bits, low, high, full⟩ => ⟨bits, low, high, full⟩⟩

/-- A floating-point number of sixty-four bits. -/
inductive Binary64 where
  /-- No number. -/
  | nan
  /-- Larger or smaller than every number. -/
  | infinite (negative : Bool)
  /-- The number `mantissa * 2 ^ exponent`, below zero when `negative`. -/
  | finite (negative : Bool) (mantissa : Nat) (exponent : Int) (held : IsBinary64 mantissa exponent)
  deriving DecidableEq, Repr

/-- The smallest mantissa of a number that has all its bits. -/
def Binary64.fullMantissa : Nat := powTwo 52

/-- Zero with a sign. -/
def Binary64.zero (negative : Bool) : Binary64 :=
  .finite negative 0 smallestExponent (by decide)

/-- A quotient rounded to the nearest whole number, a half to the even neighbour. -/
def roundHalfEven (num den : Nat) : Nat :=
  let whole := num / den
  let rest := num % den
  if 2 * rest < den then whole
  else if den < 2 * rest then whole + 1
  else if whole % 2 = 0 then whole else whole + 1

/-- The quotient of `num` by `den * 2 ^ exponent` as a fraction. -/
def scaleByTwo (num den : Nat) (exponent : Int) : Nat × Nat :=
  if 0 ≤ exponent then (num, den * powTwo exponent.toNat)
  else (num * powTwo (-exponent).toNat, den)

/-- The exponent at which the quotient has fifty-three bits, or the smallest one there is. -/
def Binary64.quotientExponent (num den : Nat) : Int :=
  let guess : Int := (num.log2 : Int) - den.log2 - 52
  let (n, d) := scaleByTwo num den guess
  let exact := if n < fullMantissa * d then guess - 1 else guess
  max exact smallestExponent

/-- The number nearest to a positive fraction, of two the one with the even mantissa. -/
def Binary64.ofRatio (negative : Bool) (num den : Nat) : Binary64 :=
  if num = 0 then zero negative
  else
    let exponent := quotientExponent num den
    let (n, d) := scaleByTwo num den exponent
    let mantissa := roundHalfEven n d
    let (mantissa, exponent) :=
      if mantissa = 2 * fullMantissa then (fullMantissa, exponent + 1) else (mantissa, exponent)
    -- What is rounded at its exponent has its bits, so only an exponent that is too large is refused.
    if held : IsBinary64 mantissa exponent then .finite negative mantissa exponent held
    else .infinite negative

/-- The number nearest to a coefficient times a power of ten. -/
def Binary64.ofScaled (negative : Bool) (coefficient : Nat) (exponent : Int) : Binary64 :=
  let leading := exponent + digitCount coefficient - 1
  if coefficient = 0 ∨ leading < -330 then zero negative
  else if 310 < leading then .infinite negative
  else if 0 ≤ exponent then ofRatio negative (coefficient * powTen exponent.toNat) 1
  else ofRatio negative coefficient (powTen (-exponent).toNat)

/-- The number nearest to a decimal. -/
def Binary64.ofDecimal : Decimal → Binary64
  | .finite negative coefficient exponent => ofScaled negative coefficient exponent
  | .infinite negative => .infinite negative
  | .nan .. => .nan

/-- The number nearest to a whole number. -/
def Binary64.ofInt (n : Int) : Binary64 :=
  ofScaled (n < 0) n.natAbs 0

/-- Reads the decimal text of a number. -/
def Binary64.ofText? (text : List Char) : Option Binary64 :=
  (Decimal.ofText? text).map ofDecimal

/-- The magnitude of a finite number as a fraction. -/
def Binary64.fraction (mantissa : Nat) (exponent : Int) : Nat × Nat :=
  scaleByTwo mantissa 1 (-exponent)

/-- The whole number that a floating-point number is, when it is one. -/
def Binary64.toInt? : Binary64 → Option Int
  | .finite negative mantissa exponent _ =>
    let (num, den) := fraction mantissa exponent
    if num % den = 0 then some (signed negative (num / den)) else none
  | _ => none

/-- The whole number that remains when the digits after the point are dropped. -/
def Binary64.truncate? : Binary64 → Option Int
  | .finite negative mantissa exponent _ =>
    let (num, den) := fraction mantissa exponent
    some (signed negative (num / den))
  | _ => none

/-- Whether the value is zero, of either sign. -/
def Binary64.isZero : Binary64 → Bool
  | .finite _ mantissa .. => mantissa = 0
  | _ => false

/-- Whether the value is a number. -/
def Binary64.isFinite : Binary64 → Bool
  | .finite .. => true
  | _ => false

end Joinery
