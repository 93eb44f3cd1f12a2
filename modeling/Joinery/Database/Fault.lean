import Joinery.Database.RankingOrder
import Joinery.Time.Fault

/-! Why a database does not carry out a statement. -/

namespace Joinery

/-- The causes for which a statement fails. -/
inductive DatabaseFault where
  /-- An order cannot be read. -/
  | order (fault : OrderFault)
  /-- There is no such table. -/
  | noTable (name : String)
  /-- There is no such column. -/
  | noColumn (name : String)
  /-- The cap on rows needs more than sixty-four bits. -/
  | capRange
  /-- A value that is no text was found where moments are stored. -/
  | momentKind
  /-- A text that is no moment was found where moments are stored. -/
  | momentText (fault : TimeFault)
  deriving DecidableEq, Repr

/-- The wording of each cause. -/
def DatabaseFault.message : DatabaseFault → String
  | .order (.unexpected word) => "near \"" ++ word ++ "\": syntax error"
  | .order (.unreadable character) =>
    "unrecognized token: \"" ++ String.ofList [character] ++ "\""
  | .noTable name => "no such table: " ++ name
  | .noColumn name => "no such column: " ++ name
  | .capRange => "datatype mismatch"
  | .momentKind => "TypeError: fromisoformat: argument must be str"
  | .momentText fault => "ValueError: " ++ fault.message

/-- Whether the fault shows while values are fetched, after the database has done its work. -/
def DatabaseFault.isFetching : DatabaseFault → Bool
  | .momentKind => true
  | .momentText _ => true
  | _ => false

end Joinery
