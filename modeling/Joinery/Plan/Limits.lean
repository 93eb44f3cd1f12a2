import Joinery.Filter.Basic
import Joinery.Schema.Basic
import Joinery.Value.Misuse

/-! The caps on joined rows and on the records of one parent. -/

namespace Joinery

/-- Whether a fraction with a sign is larger than a whole number. -/
def fractionExceeds (negative : Bool) (num den : Nat) (bound : Int) : Bool :=
  bound * den < signed negative num

/--
Whether a decimal number is larger than a whole number.

A number below one is compared like one half.
Of a large exponent no more is used than the bound has digits.
-/
def decimalExceeds (negative : Bool) (coefficient : Nat) (exponent bound : Int) : Bool :=
  if coefficient = 0 then bound < 0
  else if exponent + digitCount coefficient ≤ 0 then fractionExceeds negative 1 2 bound
  else
    let places := min exponent.toNat (digitCount bound.natAbs)
    fractionExceeds negative (coefficient * powTen places) (powTen (-exponent).toNat) bound

/-- Whether a number is larger than a whole number; other values cannot be compared. -/
def Value.exceeds? (value : Value) (bound : Int) : Option Bool :=
  match value with
  | .bool truth => some (bound < if truth then 1 else 0)
  | .int n => some (bound < n)
  | .float .nan => some false
  | .float (.infinite negative) => some !negative
  | .float (.finite negative mantissa exponent _) =>
    let (num, den) := Binary64.fraction mantissa exponent
    some (fractionExceeds negative num den bound)
  | .decimal (.nan ..) => some false
  | .decimal (.infinite negative) => some !negative
  | .decimal (.finite negative coefficient exponent) =>
    some (decimalExceeds negative coefficient exponent bound)
  | _ => none

/-- A number, or the whole number that it must not exceed. -/
def atMost (value : Value) (bound : Int) : Value :=
  if value.exceeds? bound = some true then .int bound else value

/--
The cap on joined rows: the requested one, bounded by the largest one.

A cap that is missing or not positive counts as the default one.
-/
def Registry.rowLimit (registry : Registry) (requested : Value) : Except Misuse Value :=
  if requested.isNull then .ok (atMost (.int registry.defaultLimit) registry.maxLimit)
  else
    match requested.exceeds? 0 with
    | none => .error .wrongKind
    | some true => .ok (atMost requested registry.maxLimit)
    | some false => .ok (atMost (.int registry.defaultLimit) registry.maxLimit)

/-- The cap on the records of one parent: the filter's, bounded by the largest one, if it is positive. -/
def Registry.entityLimit (registry : Registry) (filter : Option Filter) : Option Int :=
  match filter.bind Filter.limit with
  | none => none
  | some limit => if limit ≤ 0 then none else some (min limit registry.maxLimit)

/-- The cap on the records of one parent can be written, if there is one. -/
def Registry.checkEntityLimit (registry : Registry) (filter : Option Filter) : Except Misuse Unit :=
  match registry.entityLimit filter with
  | none => .ok ()
  | some cap => checkWritable cap

end Joinery
