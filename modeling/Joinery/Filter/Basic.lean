import Joinery.Text.LowerCase
import Joinery.Value.Basic

/-! Filters of entities, as documents give them. -/

namespace Joinery

/-- A value that a field can be compared with. -/
inductive Scalar where
  /-- No value. -/
  | null
  /-- A text. -/
  | text (text : String)
  /-- A whole number. -/
  | int (number : Int)
  /-- A floating-point number. -/
  | float (number : Binary64)
  /-- A truth value. -/
  | bool (truth : Bool)
  deriving DecidableEq, Repr

/-- The scalar as a value of a document. -/
def Scalar.toValue : Scalar → Value
  | .null => .null
  | .text s => .text s
  | .int n => .int n
  | .float x => .float x
  | .bool truth => .bool truth

/-- The scalar that a value is. -/
def Value.scalar? : Value → Option Scalar
  | .null => some .null
  | .text s => some (.text s)
  | .int n => some (.int n)
  | .float x => some (.float x)
  | .bool truth => some (.bool truth)
  | _ => none

/-- A scalar comes back from the value that it becomes. -/
theorem Scalar.scalar?_toValue (s : Scalar) : s.toValue.scalar? = some s := by
  cases s <;> rfl

/-- What a condition compares a field with. -/
inductive Operand where
  /-- One value. -/
  | scalar (value : Scalar)
  /-- Any of several values. -/
  | array (values : List Scalar)
  deriving DecidableEq, Repr

/-- The operand as a value of a document. -/
def Operand.toValue : Operand → Value
  | .scalar value => value.toValue
  | .array values => .list (values.map Scalar.toValue)

/-- Whether the operand holds several values. -/
def Operand.isArray : Operand → Bool
  | .scalar _ => false
  | .array _ => true

/-- A filter: conditions on fields as the document has them, and a cap. -/
structure Filter where
  /-- What the document says about each field. -/
  conditions : Entries Value
  /-- How many records are wanted for each parent. -/
  limit : Option Int
  deriving Repr

/-- The key that holds the cap. -/
def limitKey : String := "$limit"

/-- Whether a key is the one that holds the cap, letter case aside. -/
def isLimitKey (key : String) : Bool :=
  lowered key == limitKey

/-- The last cap among the entries that is a whole number. -/
def limitOf (entries : Entries Value) : Option Int :=
  (entries.filterMap fun (key, value) =>
    match value with
    | .int n => if isLimitKey key then some n else none
    | _ => none).getLast?

/-- The filter of a document: all keys but the one for the cap are conditions. -/
def Filter.ofEntries (entries : Entries Value) : Filter where
  conditions := entries.filter fun (key, _) => !isLimitKey key
  limit := limitOf entries

/-- Whether a filter says nothing about any field. -/
def Filter.isEmpty (filter : Filter) : Bool :=
  filter.conditions.isEmpty

end Joinery
