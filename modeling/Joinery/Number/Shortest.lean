import Joinery.Number.Binary64

/-! The fewest decimal digits that read back as the same floating-point number. -/

namespace Joinery

/-- The power of ten of the leading digit of a positive fraction. -/
def leadingPower (num den : Nat) : Int :=
  if den ≤ num then (digitCount (num / den) : Int) - 1
  else -(digitCount ((den - 1) / num) : Int)

/-- Decimal digits with the power of ten of the leading one. -/
structure DigitString where
  /-- The digits as a whole number. -/
  coefficient : Nat
  /-- The power of ten of the leading digit. -/
  leading : Int
  deriving DecidableEq, Repr

/--
The interval of numbers that round to one floating-point number, in quarters of its last place.

The neighbour below a power of two is twice as close as the one above.
-/
structure RoundingInterval where
  /-- Four times the mantissa. -/
  middle : Nat
  /-- The lower end. -/
  low : Nat
  /-- The upper end. -/
  high : Nat
  /-- The exponent of a quarter of the last place. -/
  exponent : Int
  /-- Whether the ends belong to the interval. -/
  closed : Bool

/-- The interval around a mantissa and an exponent. -/
def Binary64.interval (mantissa : Nat) (exponent : Int) : RoundingInterval where
  middle := 4 * mantissa
  low := 4 * mantissa -
    (if mantissa = fullMantissa ∧ smallestExponent < exponent then 1 else 2)
  high := 4 * mantissa + 2
  exponent := exponent - 2
  closed := mantissa % 2 = 0

/-- Multiplies by a power of two and a power of ten, as a factor for the numerator or the denominator. -/
def gridFactors (exponent : Int) (grid : Int) : Nat × Nat :=
  (powTwo exponent.toNat * powTen (-grid).toNat, powTwo (-exponent).toNat * powTen grid.toNat)

/-- The multiple of a power of ten that lies in the interval, of two the one nearer to the middle. -/
def RoundingInterval.onGrid? (interval : RoundingInterval) (grid : Int) : Option Nat :=
  let (up, down) := gridFactors interval.exponent grid
  let value := interval.middle * up
  let below := value / down
  let inside (candidate : Nat) : Bool :=
    if interval.closed then
      interval.low * up ≤ candidate * down && candidate * down ≤ interval.high * up
    else
      interval.low * up < candidate * down && candidate * down < interval.high * up
  let lowIn := 0 < below && inside below
  let highIn := inside (below + 1)
  let toLow := value - below * down
  let toHigh := (below + 1) * down - value
  if lowIn && (!highIn || toLow < toHigh || (toLow == toHigh && below % 2 == 0)) then some below
  else if highIn then some (below + 1)
  else none

/-- The first of the grids, from coarse to fine, that has a point in the interval. -/
def RoundingInterval.firstGrid? (interval : RoundingInterval) (leading : Int) :
    List Nat → Option DigitString
  | [] => none
  | digits :: finer =>
    match interval.onGrid? (leading - digits) with
    | some coefficient =>
      some ⟨coefficient, leading - digits + digitCount coefficient - 1⟩
    | none => firstGrid? interval leading finer

/-- The shortest digits of a positive number. -/
def Binary64.shortest (mantissa : Nat) (exponent : Int) : DigitString :=
  let (num, den) := fraction mantissa exponent
  ((interval mantissa exponent).firstGrid? (leadingPower num den) (List.range 17)).getD ⟨0, 0⟩

/-- How digits are laid out around the point. -/
structure FloatLayout where
  /-- The smallest power of ten that is written without an exponent. -/
  smallest : Int
  /-- The smallest power of ten that is written with an exponent again. -/
  large : Int
  /-- Whether a mantissa of one digit keeps a point and a zero before the exponent. -/
  pointed : Bool

/-- The usual layout: an exponent from ten to the sixteenth on and below a ten-thousandth. -/
def FloatLayout.usual : FloatLayout := ⟨-4, 16, false⟩

/-- Digits without the zeros at the end. -/
def withoutTrailingZeros (digits : List Char) : List Char :=
  (digits.reverse.dropWhile (· = '0')).reverse

/-- An exponent with its sign and at least two digits. -/
def exponentText (exponent : Int) : List Char :=
  'e' :: (if exponent < 0 then '-' else '+') :: paddedDigits 2 exponent.natAbs

/-- Lays out digits whose leading one has the given power of ten. -/
def FloatLayout.write (layout : FloatLayout) (digits : List Char) (leading : Int) : List Char :=
  let size : Int := digits.length
  if leading < layout.smallest ∨ layout.large ≤ leading then
    let mantissa := match digits with
      | [] => []
      | [digit] => if layout.pointed then [digit, '.', '0'] else [digit]
      | digit :: rest => digit :: '.' :: rest
    mantissa ++ exponentText leading
  else if leading < 0 then
    '0' :: '.' :: List.replicate (-leading - 1).toNat '0' ++ digits
  else if size ≤ leading + 1 then
    digits ++ List.replicate (leading + 1 - size).toNat '0' ++ ['.', '0']
  else
    digits.take (leading + 1).toNat ++ '.' :: digits.drop (leading + 1).toNat

/-- A floating-point number as text: the fewest digits that read back. -/
def Binary64.text (x : Binary64) : String :=
  let sign (negative : Bool) : List Char := if negative then ['-'] else []
  String.ofList <| match x with
  | .nan => "nan".toList
  | .infinite negative => sign negative ++ "inf".toList
  | .finite negative mantissa exponent _ =>
    if mantissa = 0 then sign negative ++ "0.0".toList
    else
      let digits := shortest mantissa exponent
      sign negative ++
        FloatLayout.usual.write (withoutTrailingZeros (decimalDigits digits.coefficient))
          digits.leading

end Joinery
