import Joinery.Database.Affinity
import Joinery.Value.Misuse

/-! Values of documents as cells of a table, and back. -/

namespace Joinery

/-- A cell as it is, in documents. -/
def Cell.toValue : Cell → Value
  | .null => .null
  | .integer n => .int n
  | .real x => .float x
  | .text s => .text s

/-- A value of any kind as a number with a point. -/
def Value.toBinary64 : Value → Except Misuse Binary64
  | .bool truth => .ok (.ofInt (if truth then 1 else 0))
  | .int n => .ok (.ofInt n)
  | .float x => .ok x
  | .decimal d => .ok (.ofDecimal d)
  | .text s =>
    match Binary64.ofText? s.toList with
    | some x => .ok x
    | none => .error .wrongKind
  | _ => .error .wrongKind

/-- A floating-point number as a cell; what is no number is no value. -/
def Binary64.cell (x : Binary64) : Cell :=
  match x with
  | .nan => .null
  | x => .real x

/-- A value as a cell of no particular meaning. -/
def Value.plainCell : Value → Except Misuse Cell
  | .null => .ok .null
  | .bool truth => .ok (.integer (if truth then 1 else 0))
  | .int n => if fitsInt64 n then .ok (.integer n) else .error .unbounded
  | .float x => .ok x.cell
  | .text s => .ok (.text s)
  | .moment m => .ok (.text m.plainText)
  | .date d => .ok (.text (String.ofList d.text))
  | _ => .error .wrongKind

/-- A value as a cell of a moment; the distance from universal time is not stored. -/
def Value.momentCell : Value → Except Misuse Cell
  | .null => .ok .null
  | .moment m => .ok (.text m.time.storedText)
  | .date d => .ok (.text (LocalTime.storedText ⟨d, .midnight⟩))
  | _ => .error .wrongKind

/-- A value as a cell of the given meaning. -/
def Value.cell (value : Value) : SemanticType → Except Misuse Cell
  | .decimal => if value.isNull then .ok .null else value.toBinary64.map (·.cell)
  | .datetime => value.momentCell
  | _ => value.plainCell

end Joinery
