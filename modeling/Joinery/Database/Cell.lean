import Joinery.Number.Shortest

/-! The values that a table holds, and their order. -/

namespace Joinery

/-- A value in a table. -/
inductive Cell where
  /-- No value. -/
  | null
  /-- A whole number. -/
  | integer (number : Int)
  /-- A floating-point number. -/
  | real (number : Binary64)
  /-- A text. -/
  | text (text : String)
  deriving DecidableEq, Repr, Inhabited

/-- Whether there is no value. -/
def Cell.isNull : Cell → Bool
  | .null => true
  | _ => false

/-- A number on the line that the infinities close, as a multiple of a power of two. -/
inductive Magnitude where
  /-- Smaller than every number. -/
  | lowest
  /-- The number `numerator * 2 ^ exponent`. -/
  | finite (numerator : Int) (exponent : Int)
  /-- Larger than every number. -/
  | highest
  deriving DecidableEq, Repr

/-- Compares two multiples of powers of two on the finer one of their grids. -/
def compareScaled (m : Int) (e : Int) (n : Int) (f : Int) : Ordering :=
  compare (m * powTwo (e - min e f).toNat) (n * powTwo (f - min e f).toNat)

/-- Compares two numbers. -/
def Magnitude.order : Magnitude → Magnitude → Ordering
  | .lowest, .lowest => .eq
  | .lowest, _ => .lt
  | _, .lowest => .gt
  | .highest, .highest => .eq
  | .highest, _ => .gt
  | _, .highest => .lt
  | .finite m e, .finite n f => compareScaled m e n f

/-- The place of a floating-point number on the line. -/
def Binary64.magnitude : Binary64 → Magnitude
  | .nan => .lowest
  | .infinite negative => if negative then .lowest else .highest
  | .finite negative mantissa exponent _ => .finite (signed negative mantissa) exponent

/-- Where a cell belongs when cells are sorted. -/
inductive CellPlace where
  /-- Before everything else. -/
  | nothing
  /-- Among the numbers. -/
  | number (magnitude : Magnitude)
  /-- Among the texts, after all numbers. -/
  | text (text : String)

/-- The place of a cell. -/
def Cell.place : Cell → CellPlace
  | .null => .nothing
  | .integer n => .number (.finite n 0)
  | .real x => .number x.magnitude
  | .text s => .text s

/-- Compares two places. -/
def CellPlace.order : CellPlace → CellPlace → Ordering
  | .nothing, .nothing => .eq
  | .nothing, _ => .lt
  | _, .nothing => .gt
  | .number a, .number b => a.order b
  | .number _, .text _ => .lt
  | .text _, .number _ => .gt
  | .text a, .text b => compare a b

/-- Compares two cells: no value first, then numbers by size, then texts by code points. -/
def Cell.order (a b : Cell) : Ordering :=
  a.place.order b.place

/-- Compares lists of cells by their first difference. -/
def orderCells : List Cell → List Cell → Ordering
  | [], [] => .eq
  | [], _ :: _ => .lt
  | _ :: _, [] => .gt
  | a :: as, b :: bs => (a.order b).then (orderCells as bs)

/-- Whether two cells have the same place. -/
def Cell.same (a b : Cell) : Bool :=
  a.order b == .eq

/-- How floating-point numbers are turned into text: fifteen digits, always with a point. -/
def FloatLayout.stored : FloatLayout := ⟨-4, 15, true⟩

/-- A quotient rounded to the nearest whole number, a half upwards. -/
def roundHalfUp (num den : Nat) : Nat :=
  (2 * num + den) / (2 * den)

/-- The fifteen leading digits of a positive number. -/
def fifteenDigits (mantissa : Nat) (exponent : Int) : DigitString :=
  let (num, den) := Binary64.fraction mantissa exponent
  let leading := leadingPower num den
  let shift := 14 - leading
  let digits := roundHalfUp (num * powTen shift.toNat) (den * powTen (-shift).toNat)
  if digits = powTen 15 then ⟨powTen 14, leading + 1⟩ else ⟨digits, leading⟩

/-- A floating-point number as the text that a comparison with texts uses. -/
def Binary64.storedText (x : Binary64) : String :=
  String.ofList <| match x with
  | .nan => []
  | .infinite negative => if negative then "-Inf".toList else "Inf".toList
  | .finite negative mantissa exponent _ =>
    if mantissa = 0 then "0.0".toList
    else
      let digits := fifteenDigits mantissa exponent
      (if negative then ['-'] else []) ++
        FloatLayout.stored.write (withoutTrailingZeros (decimalDigits digits.coefficient))
          digits.leading

/-- A cell as text, when it has a value. -/
def Cell.text? : Cell → Option String
  | .null => none
  | .integer n => some (intText n)
  | .real x => some x.storedText
  | .text s => some s

end Joinery
