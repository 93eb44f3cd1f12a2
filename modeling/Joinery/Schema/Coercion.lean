import Joinery.Schema.SemanticType
import Joinery.Time.Epoch
import Joinery.Time.Iso
import Joinery.Value.Misuse

/-! Values of documents converted to the meaning of a field. -/

namespace Joinery

/-- A value that can be bound to a statement. -/
inductive BoundValue where
  /-- No value. -/
  | null
  /-- A text. -/
  | text (text : String)
  /-- A whole number. -/
  | integer (number : Int)
  /-- A decimal number. -/
  | decimal (number : Decimal)
  /-- A truth value. -/
  | boolean (truth : Bool)
  /-- A moment at universal time. -/
  | moment (time : LocalTime)
  deriving DecidableEq, Repr

/-- The value in documents. -/
def BoundValue.toValue : BoundValue → Value
  | .null => .null
  | .text s => .text s
  | .integer n => .int n
  | .decimal d => .decimal d
  | .boolean truth => .bool truth
  | .moment time => .moment ⟨time, none⟩

/-- Why a value cannot be converted. -/
inductive CoercionFault where
  /-- Values of this kind are never converted to the meaning. -/
  | kind (type : SemanticType) (given : String)
  /-- The number needs more than sixty-four bits. -/
  | integerRange
  /-- The number has digits after the point, or is none. -/
  | fraction
  /-- The text spells no whole number. -/
  | malformedInteger (text : String)
  /-- The text spells a number with too many digits. -/
  | longInteger (digits : Nat)
  /-- The text spells no decimal number. -/
  | malformedDecimal
  /-- The text spells no finite number. -/
  | infiniteDecimal
  /-- The text spells no truth value. -/
  | malformedTruth
  /-- The text spells no moment. -/
  | malformedMoment (text : String)
  /-- The number or the moment lies outside the calendar. -/
  | time (fault : TimeFault)
  /-- The value has no text, because it cannot be shown. -/
  | unshown (misuse : Misuse)
  deriving DecidableEq, Repr

/-- The wording of each cause. -/
def CoercionFault.message : CoercionFault → String
  | .kind type given => "Expected " ++ type.name ++ " value, got " ++ given
  | .integerRange => "Value is outside the 64-bit integer range"
  | .fraction => "Expected a whole number"
  | .malformedInteger text => malformedIntegerText text
  | .longInteger digits => longIntegerText digits
  | .malformedDecimal => "Expected a decimal number"
  | .infiniteDecimal => "Expected a finite decimal number"
  | .malformedTruth => "Expected true or false"
  | .malformedMoment text =>
    "Cannot parse '" ++ text ++
      "' as datetime. Use ISO format: yyyy-MM-dd or yyyy-MM-ddTHH:mm:ss"
  | .time fault => fault.message
  | .unshown (.notAllowed message) => message
  | .unshown _ => ""

/-- A value that cannot be converted to the meaning of a field. -/
structure ConversionError where
  /-- The field. -/
  field : String
  /-- The name of the meaning. -/
  type : String
  /-- The value as it was given. -/
  value : Value
  /-- The reason, empty when there is none to tell. -/
  reason : String
  deriving Repr

/-- The complaint about a value that cannot be converted; it shows the value, which may be impossible. -/
def ConversionError.message (e : ConversionError) (levels : Nat) : Except Misuse String := do
  let shown ← e.value.show? levels
  return "Invalid value for field '" ++ e.field ++ "' (type: " ++ e.type ++ "): " ++ shown ++
    if e.reason = "" then "" else ". " ++ e.reason

/-- A value as text: texts stay, truth values are in lower case, anything else has to be shown. -/
def Value.toText (levels : Nat) : Value → Except CoercionFault String
  | .bool truth => .ok (if truth then "true" else "false")
  | value => ((value.checkShown levels).mapError .unshown).map fun () => value.plain

/-- A whole number that has to fit into sixty-four bits. -/
def boundedInteger (n : Int) : Except CoercionFault Int :=
  if fitsInt64 n then .ok n else .error .integerRange

/-- A value as a whole number of sixty-four bits. -/
def Value.toInteger : Value → Except CoercionFault Int
  | .bool truth => .ok (if truth then 1 else 0)
  | .int n => boundedInteger n
  | .float x =>
    match x.toInt? with
    | some n => boundedInteger n
    | none => .error .fraction
  | .text s =>
    match readInteger s.toList with
    | .number n => boundedInteger n
    | .malformed => .error (.malformedInteger (trim s))
    | .tooLong digits => .error (.longInteger digits)
  | value => .error (.kind .integer value.kindName)

/-- A floating-point number as the decimal that its text spells. -/
def Binary64.toDecimal (x : Binary64) : Decimal :=
  (Decimal.ofText? x.text.toList).getD (.nan false false 0)

/-- A value as a decimal number. -/
def Value.toDecimal : Value → Except CoercionFault Decimal
  | .bool truth => .ok (.ofInt (if truth then 1 else 0))
  | .int n => .ok (.ofInt n)
  | .float x => .ok x.toDecimal
  | .text s =>
    match Decimal.ofText? s.toList with
    | none => .error .malformedDecimal
    | some d => if d.isFinite then .ok d else .error .infiniteDecimal
  | value => .error (.kind .decimal value.kindName)

/-- A text as a truth value, blanks and letter case aside. -/
def truthOfText? (text : String) : Option Bool :=
  let word := lowered (trim text)
  if ["true", "1", "yes"].contains word then some true
  else if ["false", "0", "no"].contains word then some false
  else none

/-- A value as a truth value: numbers are true unless they are zero. -/
def Value.toTruth : Value → Except CoercionFault Bool
  | .bool truth => .ok truth
  | .int n => .ok (n ≠ 0)
  | .float x => .ok !x.isZero
  | .text s =>
    match truthOfText? s with
    | some truth => .ok truth
    | none => .error .malformedTruth
  | value => .error (.kind .boolean value.kindName)

/-- A moment moved to universal time. -/
def Moment.toUniversal (m : Moment) : Except CoercionFault LocalTime :=
  match m.universal? with
  | some time => .ok time
  | none => .error (.time .outsideCalendar)

/-- A text without blanks at the ends, and with an offset in place of a final letter Z. -/
def zonedText (text : String) : String :=
  let cs := trimChars text.toList
  String.ofList <|
    if cs.getLast? = some 'Z' ∨ cs.getLast? = some 'z' then cs.dropLast ++ "+00:00".toList else cs

/-- A value as a moment at universal time: numbers count seconds since 1970, days begin at midnight. -/
def Value.toMoment : Value → Except CoercionFault LocalTime
  | .moment m => m.toUniversal
  | .date d => .ok ⟨d, .midnight⟩
  | .int n => (LocalTime.ofEpochSeconds n 0).mapError .time
  | .float x => (LocalTime.ofEpochFloat x).mapError .time
  | .text s =>
    match Moment.ofIso (zonedText s) with
    | .ok m => m.toUniversal
    | .error _ => .error (.malformedMoment s)
  | value => .error (.kind .datetime value.kindName)

/-- A value that is not null, converted to a meaning. -/
def Value.convert (levels : Nat) (value : Value) : SemanticType → Except CoercionFault BoundValue
  | .string => (value.toText levels).map .text
  | .integer => value.toInteger.map .integer
  | .decimal => value.toDecimal.map .decimal
  | .boolean => value.toTruth.map .boolean
  | .datetime => value.toMoment.map .moment

/--
A value converted to the meaning of a field, or the complaint that there is to make.

Null stays null.
-/
def bindValue (levels : Nat) (field : String) (type : SemanticType) (value : Value) :
    Except ConversionError BoundValue :=
  if value.isNull then .ok .null
  else
    match value.convert levels type with
    | .ok bound => .ok bound
    | .error fault => .error ⟨field, type.name, value, fault.message⟩

end Joinery
