import Joinery.Number.Integer
import Joinery.Value.Basic

/-! Requests that make no sense for the values they are made with. -/

namespace Joinery

/-- Why a request makes no sense. -/
inductive Misuse where
  /-- Something that only a text or a mapping has was asked of another value. -/
  | noSuchMember
  /-- The value is of a kind that cannot be used here. -/
  | wrongKind
  /-- A name without characters cannot be quoted. -/
  | emptyName
  /-- The number has no bound. -/
  | unbounded
  /-- The value is of the right kind, and yet no such value is allowed. -/
  | notAllowed (message : String)
  /-- Values stand in one another too deeply to be shown. -/
  | tooDeep
  deriving DecidableEq, Repr

/-- A text that spells no whole number, shown in messages up to its two-hundredth character. -/
def malformedIntegerText (text : String) : String :=
  "invalid literal for int() with base 10: " ++ String.ofList ((quoted text).toList.take 200)

/-- A text that spells a number with too many digits. -/
def longIntegerText (digits : Nat) : String :=
  "Exceeds the limit (" ++ intText longestInteger ++ " digits) for integer string conversion: value has " ++
    intText digits ++ " digits; use sys.set_int_max_str_digits() to increase the limit"

/-- A number with too many digits to be written. -/
def unwritableIntegerText : String :=
  "Exceeds the limit (" ++ intText longestInteger ++
    " digits) for integer string conversion; use sys.set_int_max_str_digits() to increase the limit"

/-- Refuses a number with too many digits to be written. -/
def checkWritable (n : Int) : Except Misuse Unit :=
  if isWritable n then .ok () else .error (.notAllowed unwritableIntegerText)

mutual

/--
Checks that a value can be shown, from left to right: that every number in it can be written.

Each list and each mapping takes one of the levels in which values may stand in one another.
-/
def Value.checkShown : Value → Nat → Except Misuse Unit
  | .int n, _ => checkWritable n
  | .list items, levels + 1 => Value.checkShownItems items levels
  | .map entries, levels + 1 => Value.checkShownEntries entries levels
  | .list _, 0 | .map _, 0 => .error .tooDeep
  | _, _ => .ok ()

/-- Checks that the items of a list can be shown, one after the other. -/
def Value.checkShownItems : List Value → Nat → Except Misuse Unit
  | [], _ => .ok ()
  | item :: rest, levels => do
    item.checkShown levels
    Value.checkShownItems rest levels

/-- Checks that the values of a mapping can be shown, one after the other. -/
def Value.checkShownEntries : List (String × Value) → Nat → Except Misuse Unit
  | [], _ => .ok ()
  | (_, value) :: rest, levels => do
    value.checkShown levels
    Value.checkShownEntries rest levels

end

/-- The text that shows a value, when it can be shown in so many levels. -/
def Value.show? (value : Value) (levels : Nat) : Except Misuse String :=
  (value.checkShown levels).map fun () => value.shown

/-- The whole number of a value, digits after the point dropped. -/
def Value.toWhole : Value → Except Misuse Int
  | .bool truth => .ok (if truth then 1 else 0)
  | .int n => .ok n
  | .float x =>
    match x with
    | .nan => .error (.notAllowed "cannot convert float NaN to integer")
    | .infinite _ => .error .unbounded
    | .finite negative mantissa exponent held =>
      .ok (((Binary64.finite negative mantissa exponent held).truncate?).getD 0)
  | .decimal d =>
    match d with
    | .nan .. => .error (.notAllowed "cannot convert NaN to integer")
    | .infinite _ => .error .unbounded
    | .finite negative coefficient exponent =>
      if exponent + digitCount coefficient ≤ 0 then .ok 0
      else
        .ok (signed negative (coefficient * powTen exponent.toNat / powTen (-exponent).toNat))
  | .text s =>
    match readInteger s.toList with
    | .number n => .ok n
    | .malformed => .error (.notAllowed (malformedIntegerText s))
    | .tooLong digits => .error (.notAllowed (longIntegerText digits))
  | _ => .error .wrongKind

end Joinery
