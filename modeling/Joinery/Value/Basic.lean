import Joinery.Number.Shortest
import Joinery.Text.Quoted
import Joinery.Time.Fault
import Joinery.Value.Entries

/-! The values that loosely typed documents are made of. -/

namespace Joinery

/-- A value of a document. -/
inductive Value where
  /-- No value. -/
  | null
  /-- A truth value. -/
  | bool (truth : Bool)
  /-- A whole number of any size. -/
  | int (number : Int)
  /-- A floating-point number. -/
  | float (number : Binary64)
  /-- A decimal number. -/
  | decimal (number : Decimal)
  /-- A text. -/
  | text (text : String)
  /-- A moment. -/
  | moment (moment : Moment)
  /-- A day. -/
  | date (day : Date)
  /-- Several values in order. -/
  | list (items : List Value)
  /-- Values under names. -/
  | map (entries : List (String × Value))
  deriving Repr, Inhabited

/-- The name of a value's kind. -/
def Value.kindName : Value → String
  | .null => "NoneType"
  | .bool _ => "bool"
  | .int _ => "int"
  | .float _ => "float"
  | .decimal _ => "Decimal"
  | .text _ => "str"
  | .moment _ => "datetime"
  | .date _ => "date"
  | .list _ => "list"
  | .map _ => "dict"

/-- Whether there is a value. -/
def Value.isNull : Value → Bool
  | .null => true
  | _ => false

/-- The spelling of a truth value inside other values. -/
def truthText (truth : Bool) : String :=
  if truth then "True" else "False"

/-- Numbers as arguments, with a comma between them. -/
def argumentText (numbers : List Nat) : String :=
  ", ".intercalate (numbers.map fun (n : Nat) => intText n)

/-- The zone of a moment as an argument. -/
def zoneText (offset : Int) : String :=
  ", tzinfo=" ++
    if offset = 0 then "datetime.timezone.utc" else "datetime.timezone(" ++ spanText offset ++ ")"

/-- A moment as it stands inside other values: seconds and millionths only as far as needed. -/
def Moment.shownText (m : Moment) : String :=
  let date := m.time.date
  let clock := m.time.clock
  let fields := [date.year, date.month, date.day, clock.hour.val, clock.minute.val]
  let exact :=
    if clock.micro.val ≠ 0 then [clock.second.val, clock.micro.val]
    else if clock.second.val ≠ 0 then [clock.second.val]
    else []
  let zone := (m.offset.map (zoneText ·.val)).getD ""
  "datetime.datetime(" ++ argumentText (fields ++ exact) ++ zone ++ ")"

mutual

/-- A value as it stands inside other values and in messages, where it can be shown there. -/
def Value.shown : Value → String
  | .null => "None"
  | .bool truth => truthText truth
  | .int n => intText n
  | .float x => x.text
  | .decimal d => "Decimal('" ++ d.text ++ "')"
  | .text s => quoted s
  | .moment m => m.shownText
  | .date d => "datetime.date(" ++ argumentText [d.year, d.month, d.day] ++ ")"
  | .list items => "[" ++ ", ".intercalate (Value.shownItems items) ++ "]"
  | .map entries => "\x7b" ++ ", ".intercalate (Value.shownEntries entries) ++ "\x7d"

/-- The items of a list as they stand inside it. -/
def Value.shownItems : List Value → List String
  | [] => []
  | item :: rest => item.shown :: Value.shownItems rest

/-- The entries of a mapping as they stand inside it. -/
def Value.shownEntries : List (String × Value) → List String
  | [] => []
  | (key, value) :: rest => (quoted key ++ ": " ++ value.shown) :: Value.shownEntries rest

end

/-- A value as text of its own: texts, numbers and times without any marks. -/
def Value.plain : Value → String
  | .text s => s
  | .decimal d => d.text
  | .moment m => m.plainText
  | .date d => String.ofList d.text
  | value => value.shown

/-- Whether a value counts as something: no null, no zero, nothing empty. -/
def Value.truthy : Value → Bool
  | .null => false
  | .bool truth => truth
  | .int n => n ≠ 0
  | .float x => !x.isZero
  | .decimal (.finite _ coefficient _) => coefficient ≠ 0
  | .decimal _ => true
  | .text s => s ≠ ""
  | .moment _ => true
  | .date _ => true
  | .list items => !items.isEmpty
  | .map entries => !entries.isEmpty

/-- A list of texts as a value. -/
def Value.texts (names : List String) : Value :=
  .list (names.map .text)

/-- The value, or null when there is none. -/
def Value.ofOption {α : Type} (some? : α → Value) : Option α → Value
  | none => .null
  | some a => some? a

end Joinery
