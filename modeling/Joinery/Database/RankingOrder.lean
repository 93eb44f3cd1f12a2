import Joinery.Schema.Naming

/-! The written order of a ranking, as the database reads it. -/

namespace Joinery

/-- Why the written order cannot be read. -/
inductive OrderFault where
  /-- The word has no place where it stands. -/
  | unexpected (word : String)
  /-- The character begins no word. -/
  | unreadable (character : Char)
  deriving DecidableEq, Repr

/-- A column to order by. -/
structure OrderTerm where
  /-- The column. -/
  column : String
  /-- Whether larger values come first. -/
  descending : Bool
  deriving DecidableEq, Repr

/-- The blanks between words. -/
def isOrderBlank (c : Char) : Bool :=
  c = ' ' || c = '\t' || c = '\n' || c = '\r' || c.toNat = 12

/-- The characters of words: those of names, and everything beyond ASCII. -/
def isOrderWord (c : Char) : Bool :=
  isNamePart c || c = '$' || 128 ≤ c.toNat

/-- Splits characters into words and commas. -/
def orderWords : List Char → List Char → Except OrderFault (List (List Char))
  | word, [] => .ok (if word = [] then [] else [word])
  | word, c :: rest =>
    if isOrderWord c then orderWords (word ++ [c]) rest
    else do
      let words ←
        if isOrderBlank c then orderWords [] rest
        else if c = ',' then ([','] :: ·) <$> orderWords [] rest
        else .error (.unreadable c)
      return if word = [] then words else word :: words

/-- The words that name no column unless they are quoted. -/
def unquotableWords : List String :=
  ["add", "all", "alter", "and", "as", "autoincrement", "between", "check", "collate", "commit",
    "constraint", "create", "default", "deferrable", "delete", "distinct", "drop", "else", "escape",
    "foreign", "from", "group", "having", "in", "index", "insert", "into", "is", "isnull", "join",
    "limit", "notnull", "on", "or", "order", "primary", "references", "returning", "select", "set",
    "table", "then", "to", "transaction", "union", "unique", "update", "using", "values", "when",
    "where"]

/-- The direction that a word means. -/
def direction? (word : List Char) : Option Bool :=
  match String.ofList (word.map Char.toLower) with
  | "asc" => some false
  | "desc" => some true
  | _ => none

/-- Reads the terms of an order: a column, its direction, a comma before the next one. -/
def orderTermsOf : List (List Char) → Except OrderFault (List OrderTerm)
  | [] => .ok []
  | word :: rest => do
    let column := String.ofList word
    if word = [','] ∨ unquotableWords.contains (String.ofList (word.map Char.toLower)) then
      .error (.unexpected column)
    else
      match rest with
      | [] => return [⟨column, false⟩]
      | [','] :: more => return ⟨column, false⟩ :: (← orderTermsOf more)
      | second :: more =>
        match direction? second, more with
        | none, _ => .error (.unexpected (String.ofList second))
        | some descending, [] => return [⟨column, descending⟩]
        | some descending, [','] :: more => return ⟨column, descending⟩ :: (← orderTermsOf more)
        | some _, third :: _ => .error (.unexpected (String.ofList third))

/-- Reads an order; an empty one has no terms. -/
def readOrder (order : Option String) : Except OrderFault (List OrderTerm) := do
  orderTermsOf (← orderWords [] (order.getD "").toList)

end Joinery
