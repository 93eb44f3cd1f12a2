import Joinery.Text.LowerCase
import Joinery.Value.Misuse
import Joinery.Validation.Issue

/-! Reading typed values out of documents, with all issues collected in the order of reading. -/

namespace Joinery

/-- A value that was read, or everything that is wrong with it. -/
inductive Checked (α : Type) where
  /-- Nothing is wrong. -/
  | valid (value : α)
  /-- These things are wrong. -/
  | invalid (issues : List Issue)

/-- One issue right here. -/
def Checked.fail {α : Type} (kind : IssueKind) : Checked α :=
  .invalid [⟨[], kind⟩]

/-- The issues that were found. -/
def Checked.issues {α : Type} : Checked α → List Issue
  | .valid _ => []
  | .invalid issues => issues

/-- Changes a value that was read. -/
def Checked.map {α β : Type} (change : α → β) : Checked α → Checked β
  | .valid value => .valid (change value)
  | .invalid issues => .invalid issues

/-- Applies a function that was read to a value that was read, and keeps the issues of both. -/
def Checked.and {α β : Type} (change : Checked (α → β)) (value : Checked α) : Checked β :=
  match change, value with
  | .valid change, .valid value => .valid (change value)
  | change, value => .invalid (change.issues ++ value.issues)

/-- The result seen from one step farther out. -/
def Checked.under {α : Type} (step : Step) : Checked α → Checked α
  | .valid value => .valid value
  | .invalid issues => .invalid (issues.map (·.under step))

/-- All values of a list, or the issues of all of them. -/
def Checked.sequence {α : Type} : List (Checked α) → Checked (List α)
  | [] => .valid []
  | first :: rest => ((first.map List.cons).and (sequence rest))

/-- What can be read from a value. -/
abbrev Reader (α : Type) := Value → Checked α

/-- Reads a text. -/
def Reader.text : Reader String
  | .text s => .valid s
  | _ => .fail .text

/-- Reads a mapping. -/
def Reader.mapping : Reader (List (String × Value))
  | .map entries => .valid entries
  | _ => .fail .mapping

/-- Reads anything. -/
def Reader.any : Reader Value := .valid

/-- Reads null as nothing and anything else with the given reader. -/
def Reader.optional {α : Type} (read : Reader α) : Reader (Option α)
  | .null => .valid none
  | value => (read value).map some

/-- Reads a list of values that are all read alike. -/
def Reader.listOf {α : Type} (read : Reader α) : Reader (List α)
  | .list items =>
    .sequence (items.mapIdx fun position item => (read item).under (.index position))
  | _ => .fail .list

/-- Reads a mapping of values that are all read alike. -/
def Reader.mapOf {α : Type} (read : Reader α) : Reader (Entries α)
  | .map entries =>
    .sequence (entries.map fun (key, value) =>
      ((read value).under (.key key)).map fun read => (key, read))
  | _ => .fail .mapping

/-- The spellings of yes. -/
def yesSpellings : List String := ["true", "1", "on", "t", "y", "yes"]

/-- The spellings of no. -/
def noSpellings : List String := ["false", "0", "off", "f", "n", "no"]

/-- Reads a truth value from a text, letter case aside. -/
def Reader.spelledTruth (s : String) : Checked Bool :=
  let spelling := lowered s
  if yesSpellings.contains spelling then .valid true
  else if noSpellings.contains spelling then .valid false
  else .fail .truthSpelling

/-- A floating-point number as a whole number, when it is one of fewer than sixty-four bits. -/
def Binary64.shortInt? (x : Binary64) : Option Int :=
  x.toInt?.filter fun n => -9223372036854775808 < n && n < 9223372036854775807

/-- Reads a truth value from a whole number: zero is no, one is yes. -/
def Reader.numberedTruth (n : Int) : Checked Bool :=
  if n = 0 then .valid false else if n = 1 then .valid true else .fail .truthSpelling

/-- Reads a truth value from a number that may have digits after the point. -/
def Reader.pointedTruth (x : Binary64) : Checked Bool :=
  match x.shortInt? with
  | some n => numberedTruth n
  | none => .fail .truth

/-- Reads a truth value: itself, one of its spellings, or one of the numbers zero and one. -/
def Reader.truth : Reader Bool
  | .bool truth => .valid truth
  | .text s => spelledTruth s
  | .int n => if fitsInt64 n then numberedTruth n else .fail .truth
  | .float x => pointedTruth x
  | .decimal d => pointedTruth (.ofDecimal d)
  | _ => .fail .truth

/-- A text without a point and the zeros after it. -/
def withoutZeroPlaces (cs : List Char) : List Char :=
  match cs.reverse.dropWhile (· = '0') with
  | '.' :: rest => rest.reverse
  | _ => cs

/-- Whether a character is blank and no separator of records. -/
def isSpacing (c : Char) : Bool :=
  isBlank c && !(28 ≤ c.toNat && c.toNat ≤ 31)

/-- A text without the spacing at its ends. -/
def withoutSpacing (cs : List Char) : List Char :=
  ((cs.dropWhile isSpacing).reverse.dropWhile isSpacing).reverse

/-- Reads a whole number from a text of ASCII digits, which may have zeros after the point. -/
def Reader.spelledWhole (s : String) : Checked Int :=
  let digits := withoutZeroPlaces (withoutSpacing s.toList)
  if digits.any fun c => isBlank c || 128 ≤ c.toNat then .fail .wholeSpelling
  else
    match readInteger digits with
    | .number n => .valid n
    | .malformed => .fail .wholeSpelling
    | .tooLong _ => .fail .wholeSize

/-- Reads a whole number from a floating-point number. -/
def Reader.wholeFloat (x : Binary64) : Checked Int :=
  match x.toInt?, x.shortInt? with
  | _, some n => .valid n
  | some _, none => .fail .wholeSize
  | none, none => .fail (if x.isFinite then .wholeFraction else .finite)

/-- A decimal number as a whole number, when it is one. -/
def Decimal.toInt? : Decimal → Option Int
  | .finite negative coefficient exponent =>
    let places := powTen (-exponent).toNat
    if coefficient = 0 then some 0
    else if exponent + digitCount coefficient ≤ 0 then none
    else if coefficient % places = 0 then
      some (signed negative (coefficient / places * powTen exponent.toNat))
    else none
  | _ => none

/-- Reads a whole number from a decimal number. -/
def Reader.wholeDecimal (d : Decimal) : Checked Int :=
  match d.toInt? with
  | some n => .valid n
  | none => .fail (if d.isFinite then .wholeFraction else .finite)

/-- Reads a whole number: itself, a spelling of it, or an equal number of another kind. -/
def Reader.whole : Reader Int
  | .bool truth => .valid (if truth then 1 else 0)
  | .int n => .valid n
  | .float x => wholeFloat x
  | .decimal d => wholeDecimal d
  | .text s => spelledWhole s
  | _ => .fail .whole

/-- Reads a field of a record, with a default for one that is not there. -/
def Reader.field {α : Type} (entries : Entries Value) (key : String) (read : Reader α)
    (default? : Option α) : Checked α :=
  match entries.get? key, default? with
  | some value, _ => (read value).under (.key key)
  | none, some value => .valid value
  | none, none => (Checked.fail .missing).under (.key key)

/-- Reads a field that has two names, of which the first one is preferred. -/
def Reader.aliased {α : Type} (entries : Entries Value) (key other : String) (read : Reader α)
    (default? : Option α) : Checked α :=
  if entries.has key || !entries.has other then field entries key read default?
  else field entries other read default?

end Joinery
