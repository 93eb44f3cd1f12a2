import Joinery.Text.Blank
import Joinery.Text.LowerCase

/-! What the values of a field mean. -/

namespace Joinery

/-- The meaning of a field's values. -/
inductive SemanticType where
  /-- Texts. -/
  | string
  /-- Whole numbers. -/
  | integer
  /-- Decimal numbers. -/
  | decimal
  /-- Truth values. -/
  | boolean
  /-- Moments. -/
  | datetime
  deriving DecidableEq, Repr, Inhabited

/-- The name of a meaning. -/
def SemanticType.name : SemanticType → String
  | .string => "string"
  | .integer => "integer"
  | .decimal => "decimal"
  | .boolean => "boolean"
  | .datetime => "datetime"

/-- The names that schema documents may use. -/
def SemanticType.spellings : List (String × SemanticType) :=
  [("string", .string), ("str", .string), ("text", .string),
   ("integer", .integer), ("int", .integer), ("long", .integer),
   ("decimal", .decimal), ("money", .decimal), ("numeric", .decimal), ("float", .decimal),
   ("boolean", .boolean), ("bool", .boolean),
   ("datetime", .datetime), ("date", .datetime)]

/-- Reads the name of a meaning, blanks and letter case aside. -/
def SemanticType.ofText? (text : String) : Option SemanticType :=
  spellings.lookup (lowered (trim text))

/-- The type under which a value is bound to a statement. -/
def SemanticType.bindName : SemanticType → String
  | .string => "String"
  | .integer => "Integer"
  | .decimal => "Numeric(asdecimal=True)"
  | .boolean => "Boolean"
  | .datetime => "DateTime"

/-- The type by which a fetched value is converted; decimals stay numbers. -/
def SemanticType.resultName : SemanticType → String
  | .decimal => "Numeric(asdecimal=False)"
  | other => other.bindName

end Joinery
