import Joinery.Validation.Checked

/-! The outcome of a query, and the document that tells it. -/

namespace Joinery

/-- The outcome of a query. -/
structure QueryResult where
  /-- Whether the query came to an answer. -/
  success : Bool
  /-- Why it did not. -/
  error : Option String
  /-- A record or a list of records for each entity. -/
  data : Entries Value
  /-- The number of records for each entity. -/
  counts : Entries Int
  /-- What is worth telling. -/
  warnings : List String
  deriving Repr

/-- The outcome of a query that came to no answer. -/
def QueryResult.failed (error : String) (warnings : List String) : QueryResult :=
  ⟨false, some error, [], [], warnings⟩

mutual

/-- A value as it stands in documents: decimals and moments as text, infinite numbers as nothing. -/
def Value.documented : Value → Value
  | .decimal d => .text d.text
  | .moment m => .text m.documentText
  | .date d => .text (String.ofList d.text)
  | .float x => if x.isFinite then .float x else .null
  | .list items => .list (Value.documentedItems items)
  | .map entries => .map (Value.documentedEntries entries)
  | value => value

/-- The items of a list as they stand in documents. -/
def Value.documentedItems : List Value → List Value
  | [] => []
  | item :: rest => item.documented :: Value.documentedItems rest

/-- The entries of a mapping as they stand in documents. -/
def Value.documentedEntries : List (String × Value) → List (String × Value)
  | [] => []
  | (key, value) :: rest => (key, value.documented) :: Value.documentedEntries rest

end

/-- The document of a result: no error and no warnings when there are none. -/
def QueryResult.toDocument (result : QueryResult) : Value :=
  .map <|
    [("success", .bool result.success)] ++
    (match result.error with
      | none => []
      | some error => [("error", .text error)]) ++
    [("data", .map (Value.documentedEntries result.data)),
     ("counts", .map (result.counts.mapValues .int))] ++
    (if result.warnings.isEmpty then [] else [("warnings", .texts result.warnings)])

/-- Reads a result from its fields, each of which may be missing. -/
def Reader.queryResult (fields : Entries Value) : Checked QueryResult :=
  (((((Checked.valid QueryResult.mk).and
    (field fields "success" truth (some true))).and
    (field fields "error" (optional text) (some none))).and
    (field fields "data" mapping (some []))).and
    (field fields "counts" (mapOf whole) (some []))).and
    (field fields "warnings" (listOf text) (some []))

/-- What a value goes through: the items of a list, the keys of a mapping, the characters of a text. -/
def Value.elements : Value → Except Misuse (List Value)
  | .list items => .ok items
  | .map entries => .ok (entries.map fun (key, _) => .text key)
  | .text s => .ok (s.toList.map fun c => .text (String.ofList [c]))
  | _ => .error .wrongKind

/-- Reads a failure from an error and warnings. -/
def Reader.failure (error warnings : Value) : Except Misuse (Checked QueryResult) := do
  let warnings ← if warnings.truthy then warnings.elements else .ok []
  return queryResult [("success", .bool false), ("error", error), ("warnings", .list warnings)]

end Joinery
