import Joinery.Text.Blank
import Joinery.Text.DecimalDigit

/-! Whole numbers written in decimal digits of any script. -/

namespace Joinery

/-- What a text says when it is read as a whole number. -/
inductive IntegerReading where
  /-- The text spells this number. -/
  | number (n : Int)
  /-- The text spells no number. -/
  | malformed
  /-- The text has more digits than a number may be written with. -/
  | tooLong (digits : Nat)
  deriving DecidableEq, Repr

/-- The longest number that is read, in digits. -/
def longestInteger : Nat := 4300

/--
The digits at the front and what follows them.

A single underscore may stand between two digits.
The flag says that a digit has to come next.
-/
def digitRun (digitDue : Bool) : List Char → Option (List Nat × List Char)
  | [] => if digitDue then none else some ([], [])
  | c :: rest =>
    if c = '_' then
      if digitDue then none else digitRun true rest
    else
      match digitValue? c with
      | some digit => (digitRun false rest).map fun (digits, after) => (digit :: digits, after)
      | none => if digitDue then none else some ([], c :: rest)

/-- A sign in front, and the rest. -/
def splitSign : List Char → Bool × List Char
  | '-' :: rest => (true, rest)
  | '+' :: rest => (false, rest)
  | cs => (false, cs)

/-- A magnitude with its sign. -/
def signed (negative : Bool) (magnitude : Nat) : Int :=
  if negative then -(magnitude : Int) else magnitude

/-- A power of two. -/
def powTwo (exponent : Nat) : Nat := Nat.pow 2 exponent

/-- A power of ten. -/
def powTen (exponent : Nat) : Nat := Nat.pow 10 exponent

/-- Whether a number has no more digits than the longest one that is read. -/
def isWritable (n : Int) : Bool :=
  n.natAbs < powTen longestInteger

/-- Reads a sign and digits, blanks at either end aside. -/
def readInteger (text : List Char) : IntegerReading :=
  let (negative, body) := splitSign (trimChars text)
  match digitRun true body with
  | none => .malformed
  | some (digits, after) =>
    if longestInteger < digits.length then .tooLong digits.length
    else if after = [] then .number (signed negative (digitsValue digits))
    else .malformed

/-- The numbers that fit into sixty-four bits with a sign. -/
def fitsInt64 (n : Int) : Bool :=
  -9223372036854775808 ≤ n && n ≤ 9223372036854775807

end Joinery
