import Joinery.Database.Cell
import Joinery.Schema.SemanticType

/-! What a column makes of the values that are stored in it or compared with it. -/

namespace Joinery

/-- The kind of value that a column prefers. -/
inductive Affinity where
  /-- Texts. -/
  | text
  /-- Numbers. -/
  | numeric
  /-- None in particular. -/
  | none
  deriving DecidableEq, Repr, Inhabited

/-- The preference of a column that holds values of the given meaning. -/
def SemanticType.affinity : SemanticType → Affinity
  | .string => .text
  | _ => .numeric

/-- The blanks around a number. -/
def isNumberBlank (c : Char) : Bool :=
  c = ' ' || (9 ≤ c.toNat && c.toNat ≤ 13)

/-- A number as it may stand in a text: digits, a point, an exponent. -/
def readNumeral? (text : String) : Option Cell := do
  let body := ((text.toList.dropWhile isNumberBlank).reverse.dropWhile isNumberBlank).reverse
  let (negative, digits) := splitSign body
  let d ← Decimal.readNumber? negative digits
  match allDigits? digits with
  | some digits =>
    let n := signed negative (digitsValue digits)
    return if fitsInt64 n then .integer n else .real (.ofDecimal d)
  | none => return .real (.ofDecimal d)

/-- A cell as text, when it is a number. -/
def Cell.towardsText (cell : Cell) : Cell :=
  match cell with
  | .integer n => .text (intText n)
  | .real x => .text x.storedText
  | other => other

/-- A cell as a number, when it is a text that spells one. -/
def Cell.towardsNumber (cell : Cell) : Cell :=
  match cell with
  | .text s => (readNumeral? s).getD (.text s)
  | other => other

/-- A floating-point number as a whole number of sixty-four bits, when it is one. -/
def Cell.towardsInteger (cell : Cell) : Cell :=
  match cell with
  | .real x =>
    match x.toInt? with
    | some n => if fitsInt64 n then .integer n else .real x
    | none => .real x
  | other => other

/-- A cell as a column of the given preference stores it. -/
def Affinity.store (affinity : Affinity) (cell : Cell) : Cell :=
  match affinity with
  | .text => cell.towardsText
  | .numeric => cell.towardsNumber.towardsInteger
  | .none => cell

/-- A cell as it is compared with a column of the given preference. -/
def Affinity.apply (affinity : Affinity) (cell : Cell) : Cell :=
  match affinity with
  | .text => cell.towardsText
  | .numeric => cell.towardsNumber
  | .none => cell

/--
The preference that decides a comparison of two columns.

Numbers win over everything, and texts over no preference.
-/
def Affinity.joint : Affinity → Affinity → Affinity
  | .numeric, .numeric => .none
  | .numeric, _ => .numeric
  | _, .numeric => .numeric
  | .none, .none => .none
  | .text, .text => .none
  | _, _ => .text

end Joinery
