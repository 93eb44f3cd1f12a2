import Joinery.Database.Fault
import Joinery.Database.Judgment
import Joinery.Plan.Basic

/-! Statements are carried out on a database: ranked, joined, sorted and capped. -/

namespace Joinery

/-- The column that holds the ranks. -/
def rankColumn : String := "_rn"

/-- Compares two rows by a term of an order. -/
def OrderTerm.compare (relation : Relation) (term : OrderTerm) (a b : Row) : Ordering :=
  let order := (relation.cell term.column a).order (relation.cell term.column b)
  if term.descending then order.swap else order

/-- Compares two rows by the terms of an order, one after the other. -/
def compareTerms (relation : Relation) : List OrderTerm → Row → Row → Ordering
  | [], _, _ => .eq
  | term :: rest, a, b => (term.compare relation a b).then (compareTerms relation rest a b)

/-- Each row with its rank: how many rows before it are in the same part, and one. -/
def withRanks (together : Row → Row → Bool) : List Row → List Row → List (Row × Nat)
  | _, [] => []
  | before, row :: rest =>
    (row, (before.filter (together row)).length + 1) :: withRanks together (row :: before) rest

/-- Ranks are given to rows one by one, in their order. -/
theorem map_fst_withRanks (together : Row → Row → Bool) (before rows : List Row) :
    (withRanks together before rows).map Prod.fst = rows := by
  -- The rows before a row decide about its rank, not about whether it gets one.
  induction rows generalizing before with
  | nil => rfl
  | cons row rest ih => rw [withRanks, List.map_cons, ih]

/-- What is ranked is one of the rows. -/
theorem mem_of_mem_withRanks {together : Row → Row → Bool} {before rows : List Row}
    {ranked : Row × Nat} (member : ranked ∈ withRanks together before rows) : ranked.1 ∈ rows :=
  map_fst_withRanks together before rows ▸ List.mem_map_of_mem member

/-- The rows of a relation for which conditions hold. -/
def Relation.restrict (relation : Relation) (predicates : List Predicate)
    (parameters : List Parameter) : List Row :=
  relation.rows.filter (satisfies predicates parameters relation)

/-- Whether two rows have the same key. -/
def Relation.together (relation : Relation) (key : String) (a b : Row) : Bool :=
  (relation.cell key a).same (relation.cell key b)

/-- The order in which a ranking goes through the rows: part by part, each in its own order. -/
def Relation.rankedBefore (relation : Relation) (key : String) (terms : List OrderTerm)
    (a b : Row) : Bool :=
  ((relation.cell key a).order (relation.cell key b)).then (compareTerms relation terms a b) != .gt

/-- The terms of a ranking's order, none when they cannot be read. -/
def Ranking.terms (ranking : Ranking) : List OrderTerm :=
  (readOrder ranking.order).toOption.getD []

/--
The rows for which the conditions of a ranking hold, in its order and with their ranks.

Rows in one place of the order stay as they are stored.
-/
def Relation.ranks (relation : Relation) (ranking : Ranking) (parameters : List Parameter) :
    List (Row × Nat) :=
  let key := readBack ranking.key
  let rows := relation.restrict ranking.conditions parameters
  withRanks (relation.together key) [] (rows.mergeSort (relation.rankedBefore key ranking.terms))

/-- A row with its rank as one more cell. -/
def rankedRow (ranked : Row × Nat) : Row :=
  ranked.1 ++ [.integer ranked.2]

/-- A relation with one more column, which holds the ranks. -/
def Relation.withRankColumn (relation : Relation) (ranks : List (Row × Nat))
    (full : ∀ ranked ∈ ranks, ranked.1 ∈ relation.rows) : Relation where
  columns := relation.columns ++ [⟨rankColumn, .none⟩]
  rows := ranks.map rankedRow
  rectangular row member := by
    -- Each row gets one cell more.
    obtain ⟨ranked, inside, rfl⟩ := List.mem_map.mp member
    rw [rankedRow, List.length_append, List.length_append, relation.rectangular _ (full ranked inside)]
    rfl

/-- Whether the rank of a row is within the cap. -/
def Relation.withinCap (relation : Relation) (cap : Int) (row : Row) : Bool :=
  ((relation.cell rankColumn row).compare? ((relation.affinity rankColumn).apply (.integer cap))).any
    (· != .gt)

/-- Ranks are given to rows of the relation. -/
theorem Relation.mem_of_mem_ranks (relation : Relation) (ranking : Ranking)
    (parameters : List Parameter) (ranked : Row × Nat)
    (member : ranked ∈ relation.ranks ranking parameters) : ranked.1 ∈ relation.rows :=
  -- A filter chose the rows, and sorting them adds none.
  (List.mem_filter.mp (List.mem_mergeSort.mp (mem_of_mem_withRanks member))).1

/-- The first rows of each part of a ranking, with a column of ranks. -/
def Relation.ranked (relation : Relation) (ranking : Ranking) (parameters : List Parameter) :
    Relation :=
  let wide := relation.withRankColumn (relation.ranks ranking parameters)
    (relation.mem_of_mem_ranks ranking parameters)
  wide.keep (wide.withinCap ranking.cap)

/-- A table, without columns and rows when it does not exist. -/
def Database.tableOrEmpty (database : Database) (name : String) : Relation :=
  (database.table? (readBack name)).getD .empty

/-- The rows that a join can match. -/
def Join.source (join : Join) (database : Database) (parameters : List Parameter) : Relation :=
  match join.ranking with
  | none => database.tableOrEmpty join.table
  | some ranking => (database.tableOrEmpty join.table).ranked ranking parameters

/-- The sources of a statement: the primary table, then one for each join. -/
def Statement.sources (statement : Statement) (database : Database) (parameters : List Parameter) :
    List Relation :=
  database.tableOrEmpty statement.table ::
    statement.joins.map fun join => join.source database parameters

/-- A joined row: one row of each source so far. -/
abbrev JoinedRow := List Row

/-- The source of a number, without columns and rows when there is none. -/
def sourceAt (sources : List Relation) (source : Nat) : Relation :=
  sources.getD source .empty

/-- The cell of a joined row in a column. -/
def ColumnRef.cell (ref : ColumnRef) (sources : List Relation) (joined : JoinedRow) : Cell :=
  (sourceAt sources ref.source).cell (readBack ref.column) (joined.getD ref.source [])

/-- What a column prefers. -/
def ColumnRef.affinity (ref : ColumnRef) (sources : List Relation) : Affinity :=
  (sourceAt sources ref.source).affinity (readBack ref.column)

/-- Whether the key of a row equals the key of the joined row that it hangs from. -/
def Join.keysAgree (join : Join) (sources : List Relation) (source : Relation) (joined : JoinedRow)
    (row : Row) : Bool :=
  let key := readBack join.key
  let affinity := (source.affinity key).joint (join.parent.affinity sources)
  ((affinity.apply (source.cell key row)).equals
    (affinity.apply (join.parent.cell sources joined))).holds

/-- Whether a row is joined to a joined row. -/
def Join.accepts (join : Join) (sources : List Relation) (source : Relation)
    (parameters : List Parameter) (joined : JoinedRow) (row : Row) : Bool :=
  join.keysAgree sources source joined row &&
    satisfies join.conditions parameters source row

/-- Joined rows extended by every row that they accept, or by a row without values if they accept none. -/
def leftJoin (rows : List JoinedRow) (source : Relation) (accepts : JoinedRow → Row → Bool) :
    List JoinedRow :=
  rows.flatMap fun joined =>
    match source.rows.filter (accepts joined) with
    | [] => [joined ++ [source.nullRow]]
    | found => found.map fun row => joined ++ [row]

/-- Joins sources one after the other. -/
def joinAll (sources : List Relation) (parameters : List Parameter) :
    List (Join × Relation) → List JoinedRow → List JoinedRow
  | [], rows => rows
  | (join, source) :: rest, rows =>
    joinAll sources parameters rest
      (leftJoin rows source (join.accepts sources source parameters))

/-- The primary rows for which the conditions of a statement hold. -/
def Statement.primaryRows (statement : Statement) (database : Database)
    (parameters : List Parameter) : List Row :=
  (database.tableOrEmpty statement.table).restrict statement.conditions parameters

/-- All joined rows, in the order in which they are found. -/
def Statement.joinedRows (statement : Statement) (database : Database)
    (parameters : List Parameter) : List JoinedRow :=
  let sources := statement.sources database parameters
  joinAll sources parameters (statement.joins.zip sources.tail)
    ((statement.primaryRows database parameters).map fun row => [row])

/-- The cells that a joined row is sorted by. -/
def Statement.sortKey (statement : Statement) (sources : List Relation) (joined : JoinedRow) :
    List Cell :=
  statement.order.map fun ref => ref.cell sources joined

/-- Whether a joined row may stand before another one. -/
def Statement.sortedBefore (statement : Statement) (sources : List Relation) (a b : JoinedRow) :
    Bool :=
  orderCells (statement.sortKey sources a) (statement.sortKey sources b) != .gt

/-- The first rows up to a cap; a negative one is none. -/
def capRows {α : Type} (cap : Int) (rows : List α) : List α :=
  if cap < 0 then rows else rows.take cap.toNat

/-- The joined rows that a statement returns; rows in one place of its order stay as they are found. -/
def Statement.resultRows (statement : Statement) (database : Database)
    (parameters : List Parameter) : List JoinedRow :=
  let sources := statement.sources database parameters
  capRows statement.cap
    ((statement.joinedRows database parameters).mergeSort (statement.sortedBefore sources))

end Joinery
