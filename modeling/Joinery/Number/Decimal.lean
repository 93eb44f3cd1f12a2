import Joinery.Text.Blank
import Joinery.Text.DecimalDigit
import Joinery.Number.Integer

/-! Decimal numbers that remember how they were written, trailing zeros included. -/

namespace Joinery

/-- A decimal number: coefficient times a power of ten, or one of the special values. -/
inductive Decimal where
  /-- The number `coefficient * 10 ^ exponent`, below zero when `negative`. -/
  | finite (negative : Bool) (coefficient : Nat) (exponent : Int)
  /-- Larger or smaller than every number. -/
  | infinite (negative : Bool)
  /-- No number at all, with the diagnostic digits it was written with. -/
  | nan (negative signaling : Bool) (payload : Nat)
  deriving DecidableEq, Repr

/-- A whole number as a decimal. -/
def Decimal.ofInt (n : Int) : Decimal :=
  .finite (n < 0) n.natAbs 0

/-- Whether the value is a number. -/
def Decimal.isFinite : Decimal → Bool
  | .finite .. => true
  | _ => false

/-- The largest power of ten of the leading digit. -/
def Decimal.largestExponent : Int := 999999999999999999

/-- The smallest power of ten of the last digit. -/
def Decimal.smallestExponent : Int := -1999999999999999997

/-- How many digits a coefficient is written with. -/
def digitCount (n : Nat) : Nat :=
  (decimalDigits n).length

/-- The text of a coefficient and an exponent: positional down to a millionth, scientific otherwise. -/
def Decimal.magnitudeText (coefficient : Nat) (exponent : Int) : List Char :=
  let digits := decimalDigits coefficient
  let size : Int := digits.length
  let point := exponent + size
  let place := if exponent ≤ 0 ∧ -6 < point then point else 1
  let mantissa :=
    if place ≤ 0 then '0' :: '.' :: List.replicate (-place).toNat '0' ++ digits
    else if size ≤ place then digits ++ List.replicate (place - size).toNat '0'
    else digits.take place.toNat ++ '.' :: digits.drop place.toNat
  let scale := point - place
  if scale = 0 then mantissa
  else mantissa ++ 'E' :: (if 0 < scale then ['+'] else []) ++ intDigits scale

/-- A decimal as text. -/
def Decimal.text (d : Decimal) : String :=
  let sign (negative : Bool) : List Char := if negative then ['-'] else []
  String.ofList <| match d with
  | .finite negative coefficient exponent => sign negative ++ magnitudeText coefficient exponent
  | .infinite negative => sign negative ++ "Infinity".toList
  | .nan negative signaling payload =>
    sign negative ++ (if signaling then "sNaN" else "NaN").toList ++
      (if payload = 0 then [] else decimalDigits payload)

/-- Each character as an ASCII digit where it is a digit, a space where it is blank. -/
def plainCharacter (c : Char) : Char :=
  match digitValue? c with
  | some digit => digitChar digit
  | none => if isBlank c then ' ' else c

/-- The characters that a decimal is read from: underscores are dropped and digits made plain. -/
def decimalCharacters (text : List Char) : List Char :=
  ((trimChars text).filter (· ≠ '_')).map plainCharacter

/-- The ASCII digits at the front and what follows. -/
def asciiDigits : List Char → List Nat × List Char
  | [] => ([], [])
  | c :: rest =>
    match asciiDigit? c with
    | some digit => (digit :: (asciiDigits rest).1, (asciiDigits rest).2)
    | none => ([], c :: rest)

/-- The digits of a number that consists of digits only. -/
def allDigits? (cs : List Char) : Option (List Nat) :=
  cs.mapM asciiDigit?

/-- An exponent: nothing, or the letter, a sign and at least one digit. -/
def readExponent? : List Char → Option Int
  | [] => some 0
  | c :: rest =>
    if c = 'e' ∨ c = 'E' then
      let (negative, body) := splitSign rest
      match allDigits? body with
      | some (digit :: digits) => some (signed negative (digitsValue (digit :: digits)))
      | _ => none
    else none

/-- A decimal within the range of exponents. -/
def Decimal.inRange? (negative : Bool) (coefficient : Nat) (exponent : Int) : Option Decimal :=
  if exponent + digitCount coefficient - 1 ≤ largestExponent ∧ smallestExponent ≤ exponent then
    some (.finite negative coefficient exponent)
  else none

/-- Digits with at most one point, and an exponent. -/
def Decimal.readNumber? (negative : Bool) (cs : List Char) : Option Decimal :=
  let (whole, afterWhole) := asciiDigits cs
  let (part, rest) := match afterWhole with
    | '.' :: afterPoint => asciiDigits afterPoint
    | _ => ([], afterWhole)
  if whole = [] ∧ part = [] then none
  else do
    let scale ← readExponent? rest
    inRange? negative (digitsValue (whole ++ part)) (scale - part.length)

/-- ASCII letters in lower case. -/
def lowerAscii (cs : List Char) : List Char :=
  cs.map Char.toLower

/-- What follows when a word stands at the front, letter case aside. -/
def afterWord? (word : List Char) (cs : List Char) : Option (List Char) :=
  if lowerAscii (cs.take word.length) = word then some (cs.drop word.length) else none

/-- The words for infinity and for no number, the latter with diagnostic digits. -/
def Decimal.readSpecial? (negative : Bool) (cs : List Char) : Option Decimal :=
  if lowerAscii cs = "inf".toList ∨ lowerAscii cs = "infinity".toList then
    some (.infinite negative)
  else
    match afterWord? "nan".toList cs, afterWord? "snan".toList cs with
    | some digits, _ => (allDigits? digits).map fun ds => .nan negative false (digitsValue ds)
    | none, some digits => (allDigits? digits).map fun ds => .nan negative true (digitsValue ds)
    | none, none => none

/-- Reads a decimal. -/
def Decimal.ofText? (text : List Char) : Option Decimal :=
  let (negative, body) := splitSign (decimalCharacters text)
  (readSpecial? negative body).or (readNumber? negative body)

end Joinery
