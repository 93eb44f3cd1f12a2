import Joinery.Value.Misuse

/-! Why a query is refused before anything is executed. -/

namespace Joinery

/-- The causes for which a query is refused. -/
inductive Rejection where
  /-- No entity is queried. -/
  | noPrimary
  /-- The queried entity is not narrowed down. -/
  | noFilter
  /-- No entity has the name. -/
  | unknownEntity (name : String)
  /-- An entity is requested twice. -/
  | repeatedEntity (name : String)
  /-- An entity hangs below one that is not part of the query. -/
  | strayParent (parent child : String)
  /-- A filter is no mapping. -/
  | filterNotObject (kind : String)
  /-- An array holds something that is no scalar. -/
  | arrayItem (field : String) (item : Value)
  /-- A value is neither a scalar nor an array. -/
  | unsupportedValue (field : String) (value : Value)
  /-- An operator for one value was given several. -/
  | arrayNotAccepted (field key : String)
  /-- A field was set equal to several values. -/
  | plainArray (field : String)
  deriving Repr

/-- What is said about the filter of a field. -/
def aboutField (field complaint : String) : String :=
  "Filter field '" ++ field ++ "': " ++ complaint

/-- The wording of each cause; some show a value, which may be impossible. -/
def Rejection.message (levels : Nat) : Rejection → Except Misuse String
  | .noPrimary => .ok "Primary entity not specified. Call from_entity() first."
  | .noFilter => .ok "Filter not specified. Call where() first."
  | .unknownEntity name => .ok ("Unknown entity: " ++ name)
  | .repeatedEntity name => .ok ("Entity " ++ name ++ " is requested more than once")
  | .strayParent parent child =>
    .ok ("Parent entity " ++ parent ++ " of " ++ child ++
      " is neither the primary entity nor a requested related entity")
  | .filterNotObject kind => .ok ("Filter must be an object, got " ++ kind)
  | .arrayItem field item => (item.show? levels).map fun shown =>
    aboutField field ("arrays may only contain scalar values, got " ++ shown)
  | .unsupportedValue field value => (value.show? levels).map fun shown =>
    aboutField field ("unsupported value " ++ shown)
  | .arrayNotAccepted field key =>
    .ok (aboutField field ("operator " ++ key ++ " does not accept an array"))
  | .plainArray field => .ok (aboutField field "use $in to match against an array")

end Joinery
