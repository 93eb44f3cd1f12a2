import Joinery.Database.Pattern
import Joinery.Database.Table
import Joinery.Statement.Dialect
import Joinery.Statement.Parameter

/-! When a condition holds of a row: true, false, or unknown where a value is missing. -/

namespace Joinery

/-- True, false or unknown. -/
abbrev Truth := Option Bool

/-- A bound value as the database sees it. -/
def BoundValue.cell : BoundValue → Cell
  | .null => .null
  | .text s => .text s
  | .integer n => .integer n
  | .decimal d =>
    match Binary64.ofDecimal d with
    | .nan => .null
    | x => .real x
  | .boolean truth => .integer (if truth then 1 else 0)
  | .moment time => .text time.storedText

/-- The order of two cells, unknown when one of them has no value. -/
def Cell.compare? (a b : Cell) : Option Ordering :=
  if a.isNull || b.isNull then none else some (a.order b)

/-- Whether two cells are equal. -/
def Cell.equals (a b : Cell) : Truth :=
  (a.compare? b).map (· == .eq)

/-- Whether a truth is settled as true. -/
def Truth.holds (truth : Truth) : Bool :=
  truth == some true

/-- The opposite of a truth. -/
def Truth.not (truth : Truth) : Truth :=
  truth.map (!·)

/-- Whether one of several truths holds, unknown when none does and one is unknown. -/
def Truth.any (truths : List Truth) : Truth :=
  if truths.contains (some true) then some true
  else if truths.contains none then none
  else some false

/-- Whether a cell has the form of a pattern. -/
def Cell.like (cell pattern : Cell) : Truth := do
  return likeText (← pattern.text?) (← cell.text?)

/-- A cell compared with one other cell. -/
def Comparator.judgeOne (comparator : Comparator) (cell other : Cell) : Truth :=
  match comparator with
  | .equal | .isIn => cell.equals other
  | .notEqual | .notIn => Truth.not (cell.equals other)
  | .greater => (cell.compare? other).map (· == .gt)
  | .atLeast => (cell.compare? other).map (· != .lt)
  | .less => (cell.compare? other).map (· == .lt)
  | .atMost => (cell.compare? other).map (· != .gt)
  | .like => cell.like other

/-- A cell compared with several other cells. -/
def Comparator.judgeMany (comparator : Comparator) (cell : Cell) (others : List Cell) : Truth :=
  match comparator with
  | .notIn => Truth.not (Truth.any (others.map cell.equals))
  | _ => Truth.any (others.map cell.equals)

/-- What is bound to a place, as the database compares it with a column. -/
def Binding.judge (binding : Binding) (comparator : Comparator) (affinity : Affinity) (cell : Cell) :
    Truth :=
  -- Patterns compare texts, so the preference of the column does not matter to them.
  let seen (value : BoundValue) : Cell :=
    if comparator = .like then value.cell else affinity.apply value.cell
  match binding with
  | .one value => comparator.judgeOne cell (seen value)
  | .many values => comparator.judgeMany cell (values.map seen)

/-- A name as the database reads it: without quotation marks a line end at its end is lost. -/
def readBack (name : String) : String :=
  let written := withoutLineEnd name.toList
  if written = name.toList ∨ Dialect.sqlite.needsQuotes name then name else String.ofList written

/-- What a condition says about a row. -/
def Predicate.judge (predicate : Predicate) (parameters : List Parameter) (relation : Relation)
    (row : Row) : Truth :=
  let name := readBack predicate.column
  let cell := relation.cell name row
  match predicate with
  | .isNull _ => some cell.isNull
  | .isNotNull _ => some !cell.isNull
  | .compare _ comparator placeholder => do
    let parameter ← parameters[placeholder]?
    parameter.binding.judge comparator (relation.affinity name) cell

/-- Whether all conditions hold of a row. -/
def satisfies (predicates : List Predicate) (parameters : List Parameter) (relation : Relation)
    (row : Row) : Bool :=
  predicates.all fun predicate => (predicate.judge parameters relation row).holds

end Joinery
