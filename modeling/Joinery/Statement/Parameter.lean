import Joinery.Schema.Coercion
import Joinery.Statement.Basic

/-! The values that are bound to the places of a statement. -/

namespace Joinery

/-- What is bound to a place of a statement. -/
inductive Binding where
  /-- One value. -/
  | one (value : BoundValue)
  /-- Several values. -/
  | many (values : List BoundValue)
  deriving DecidableEq, Repr

/-- Whether several values are bound. -/
def Binding.isMany : Binding → Bool
  | .one _ => false
  | .many _ => true

/-- What is bound to a place, and the meaning under which it is bound. -/
structure Parameter where
  /-- What is bound. -/
  binding : Binding
  /-- The meaning of the values. -/
  type : SemanticType
  deriving DecidableEq, Repr

end Joinery
