/-! What is wrong with a document, and where. -/

namespace Joinery

/-- One step of the way into a document. -/
inductive Step where
  /-- Into the value under a key. -/
  | key (name : String)
  /-- Into the item at a position. -/
  | index (position : Nat)
  deriving DecidableEq, Repr

/-- What is wrong with a value. -/
inductive IssueKind where
  /-- A value that has to be there is not. -/
  | missing
  /-- The value is no text. -/
  | text
  /-- The value is no mapping. -/
  | mapping
  /-- The value is no list. -/
  | list
  /-- The value is none of the choices, which are given as a sentence says them. -/
  | choice (choices : String)
  /-- The value is none of the constants, which are given as a sentence says them. -/
  | constant (constants : String)
  /-- The value is no mapping that describes a thing of the given kind. -/
  | record (kind : String)
  /-- The value is no mapping that a request could be read from. -/
  | request
  /-- The value is of a kind that is no truth value. -/
  | truth
  /-- The value is of a kind that could be a truth value, and is none. -/
  | truthSpelling
  /-- The value is of a kind that is no whole number. -/
  | whole
  /-- The text spells no whole number. -/
  | wholeSpelling
  /-- The number has digits after the point. -/
  | wholeFraction
  /-- The number has too many digits. -/
  | wholeSize
  /-- The number has no bound, or is none. -/
  | finite
  /-- The values do not go together. -/
  | rule (message : String)
  deriving DecidableEq, Repr

/-- The short name of an issue. -/
def IssueKind.code : IssueKind → String
  | .missing => "missing"
  | .text => "string_type"
  | .mapping => "dict_type"
  | .list => "list_type"
  | .choice _ => "enum"
  | .constant _ => "literal_error"
  | .record _ => "model_type"
  | .request => "model_attributes_type"
  | .truth => "bool_type"
  | .truthSpelling => "bool_parsing"
  | .whole => "int_type"
  | .wholeSpelling => "int_parsing"
  | .wholeFraction => "int_from_float"
  | .wholeSize => "int_parsing_size"
  | .finite => "finite_number"
  | .rule _ => "value_error"

/-- The wording of an issue. -/
def IssueKind.message : IssueKind → String
  | .missing => "Field required"
  | .text => "Input should be a valid string"
  | .mapping => "Input should be a valid dictionary"
  | .list => "Input should be a valid list"
  | .choice choices => "Input should be " ++ choices
  | .constant constants => "Input should be " ++ constants
  | .record kind => "Input should be a valid dictionary or instance of " ++ kind
  | .request => "Input should be a valid dictionary or object to extract fields from"
  | .truth => "Input should be a valid boolean"
  | .truthSpelling => "Input should be a valid boolean, unable to interpret input"
  | .whole => "Input should be a valid integer"
  | .wholeSpelling => "Input should be a valid integer, unable to parse string as an integer"
  | .wholeFraction => "Input should be a valid integer, got a number with a fractional part"
  | .wholeSize => "Unable to parse input string as an integer, exceeded maximum size"
  | .finite => "Input should be a finite number"
  | .rule message => "Value error, " ++ message

/-- Something wrong at a place of a document. -/
structure Issue where
  /-- The way to the place, from the outside in. -/
  place : List Step
  /-- What is wrong there. -/
  kind : IssueKind
  deriving DecidableEq, Repr

/-- The issue seen from one step farther out. -/
def Issue.under (step : Step) (issue : Issue) : Issue :=
  { issue with place := step :: issue.place }

end Joinery
