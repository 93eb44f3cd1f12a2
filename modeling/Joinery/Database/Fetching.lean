import Joinery.Database.CellValue
import Joinery.Database.Resolution
import Joinery.Time.Iso

/-! The rows of a statement as documents, with truth values and moments restored. -/

namespace Joinery

/-- A cell as a truth value: zero and the empty text are false. -/
def Cell.toTruth : Cell → Value
  | .null => .null
  | cell => .bool cell.toValue.truthy

/-- A cell as a moment, which has to be stored as text. -/
def Cell.toMoment : Cell → Except DatabaseFault Value
  | .null => .ok .null
  | .text s =>
    match Moment.ofIso s with
    | .ok moment => .ok (.moment moment)
    | .error fault => .error (.momentText fault)
  | _ => .error .momentKind

/-- A cell as a value of the given meaning; numbers and texts stay as they are. -/
def Cell.fetch (type : Option SemanticType) (cell : Cell) : Except DatabaseFault Value :=
  match type with
  | some .boolean => .ok cell.toTruth
  | some .datetime => cell.toMoment
  | _ => .ok cell.toValue

/-- A fetched row: values under the labels of their columns. -/
abbrev FetchedRow := Entries Value

/-- Fetches the columns of a joined row; of two columns with one label the last one counts. -/
def fetchRow (columns : List SelectedColumn) (types : Entries SemanticType)
    (sources : List Relation) (joined : JoinedRow) : Except DatabaseFault FetchedRow := do
  let pairs ← columns.mapM fun selected => do
    let value ← (selected.ref.cell sources joined).fetch (types.get? selected.label)
    return (selected.label, value)
  return .ofPairs pairs

/-- Carries out the statement of a plan. -/
def Plan.run (plan : Plan) (database : Database) : Except DatabaseFault (List FetchedRow) := do
  plan.statement.check database plan.parameters
  let sources := plan.statement.sources database plan.parameters
  (plan.statement.resultRows database plan.parameters).mapM
    (fetchRow plan.statement.columns plan.resultTypes sources)

end Joinery
