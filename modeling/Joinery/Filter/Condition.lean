import Joinery.Filter.Basic
import Joinery.Query.Rejection
import Joinery.Schema.Basic

/-! Filters read against the fields that an entity opens to them. -/

namespace Joinery

/-- How a field is compared with an operand. -/
inductive Comparator where
  /-- The same. -/
  | equal
  /-- Not the same. -/
  | notEqual
  /-- Larger. -/
  | greater
  /-- Not smaller. -/
  | atLeast
  /-- Smaller. -/
  | less
  /-- Not larger. -/
  | atMost
  /-- One of several. -/
  | isIn
  /-- None of several. -/
  | notIn
  /-- Of the form of a pattern. -/
  | like
  deriving DecidableEq, Repr

/-- The comparator in a statement. -/
def Comparator.spelling : Comparator → String
  | .equal => "="
  | .notEqual => "!="
  | .greater => ">"
  | .atLeast => ">="
  | .less => "<"
  | .atMost => "<="
  | .isIn => "IN"
  | .notIn => "NOT IN"
  | .like => "LIKE"

/-- Whether the comparator goes with several values. -/
def Comparator.takesArray : Comparator → Bool
  | .isIn | .notIn => true
  | _ => false

/-- The comparators by their keys in documents; regular expressions are patterns too. -/
def operators : List (String × Comparator) :=
  [("$eq", .equal), ("$ne", .notEqual), ("$gt", .greater), ("$gte", .atLeast), ("$lt", .less),
   ("$lte", .atMost), ("$in", .isIn), ("$nin", .notIn), ("$like", .like), ("$regex", .like)]

/-- The comparator of a key, letter case aside. -/
def operator? (key : String) : Option Comparator :=
  operators.lookup (lowered key)

/-- One condition on a field. -/
structure Condition where
  /-- The field. -/
  field : String
  /-- How it is compared. -/
  comparator : Comparator
  /-- What it is compared with. -/
  operand : Operand
  deriving DecidableEq, Repr

/-- The scalars of an array, all of which have to be some. -/
def arrayScalars (field : String) : List Value → Except Rejection (List Scalar)
  | [] => .ok []
  | item :: rest =>
    match item.scalar? with
    | none => .error (.arrayItem field item)
    | some scalar => (arrayScalars field rest).map (scalar :: ·)

/-- The operand that a value is: a scalar or an array of scalars. -/
def readOperand (field : String) (value : Value) : Except Rejection Operand :=
  match value.scalar?, value with
  | some scalar, _ => .ok (.scalar scalar)
  | none, .list items => (arrayScalars field items).map .array
  | none, _ => .error (.unsupportedValue field value)

/-- The condition of one operator; unknown ones say nothing. -/
def readOperator (field key : String) (value : Value) : Except Rejection (Option Condition) :=
  match operator? key with
  | none => .ok none
  | some comparator => do
    match ← readOperand field value, comparator.takesArray with
    | .scalar scalar, true => return some ⟨field, comparator, .array [scalar]⟩
    | .array _, false => .error (.arrayNotAccepted field key)
    | operand, _ => return some ⟨field, comparator, operand⟩

/-- The conditions of the operators of one field. -/
def readOperators (field : String) : List (String × Value) → Except Rejection (List Condition)
  | [] => .ok []
  | (key, value) :: rest => do
    let first ← readOperator field key value
    let others ← readOperators field rest
    return first.toList ++ others

/-- The conditions on one field: operators, or a value that the field has to equal. -/
def readField (field : String) : Value → Except Rejection (List Condition)
  | .map entries => readOperators field entries
  | value => do
    match ← readOperand field value with
    | .array _ => .error (.plainArray field)
    | operand => return [⟨field, .equal, operand⟩]

/-- What a filter says about an entity. -/
structure Reading where
  /-- The conditions in the order of the document. -/
  conditions : List Condition
  /-- The keys that are not open to filters. -/
  rejected : List String
  deriving DecidableEq, Repr

/-- Reads the entries of a filter against an entity. -/
def readConditions (entity : EntitySchema) : List (String × Value) → Except Rejection Reading
  | [] => .ok ⟨[], []⟩
  | (key, value) :: rest =>
    match entity.allowedFilterField? key with
    | none => do
      let reading ← readConditions entity rest
      return { reading with rejected := key :: reading.rejected }
    | some field => do
      let first ← readField field value
      let reading ← readConditions entity rest
      return { reading with conditions := first ++ reading.conditions }

/-- Reads a filter against an entity; without one nothing is said. -/
def Filter.read (entity : EntitySchema) : Option Filter → Except Rejection Reading
  | none => .ok ⟨[], []⟩
  | some filter => readConditions entity filter.conditions

/-- Reads a filter from a value; null is no filter. -/
def Filter.ofValue : Value → Except Rejection (Option Filter)
  | .null => .ok none
  | .map entries => .ok (some (.ofEntries entries))
  | value => .error (.filterNotObject value.kindName)

end Joinery
