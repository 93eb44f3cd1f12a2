import Joinery.Proofs.Schema.Naming
import Joinery.Proofs.Statement.Placeholders

/-! The text of a statement is written from pieces that do not depend on the dialect. -/

namespace Joinery

/-- The parts of a statement in which columns are named. -/
inductive Clause where
  /-- What is returned. -/
  | returned
  /-- What joined records have to meet. -/
  | joined
  /-- What the records of the primary table, or those that are ranked, have to meet. -/
  | narrowed
  /-- What is ranked each for itself. -/
  | grouped
  /-- What is ranked by. -/
  | ranked
  /-- What is sorted by. -/
  | sorted
  deriving DecidableEq, Repr

/-- A piece of a statement. -/
inductive Piece where
  /-- What every dialect writes alike. -/
  | fixed (text : String)
  /-- The name of a table. -/
  | table (name : String)
  /-- The name of a column. -/
  | column (clause : Clause) (name : String)
  /-- The label of a returned column. -/
  | label (name : String)
  /-- The order of a ranking that has none. -/
  | unordered
  /-- The cap on the rows of the statement. -/
  | cap (limit : Int)
  deriving DecidableEq, Repr

/-- The spelling of a column: a ranking goes by the terms of its order as they stand in the schema. -/
def Dialect.spell (dialect : Dialect) (clause : Clause) (name : String) : String :=
  if clause = .ranked then name else dialect.quote name

/-- The text of a piece. -/
def Dialect.writePiece (dialect : Dialect) : Piece → String
  | .fixed text => text
  | .table name => dialect.quote name
  | .column clause name => dialect.spell clause name
  | .label name => dialect.quoteAlways name
  | .unordered => dialect.rankingOrder none
  | .cap limit => dialect.capRows "" limit

/-- The text of pieces that follow each other. -/
def Dialect.write (dialect : Dialect) (pieces : List Piece) : String :=
  String.join (pieces.map dialect.writePiece)

/-- Pieces with the same text between them. -/
def separated (separator : String) (parts : List (List Piece)) : List Piece :=
  [Piece.fixed separator].intercalate parts

/-- A column behind the alias of its source, or alone. -/
def columnPieces (clause : Clause) (source : Option Nat) (name : String) : List Piece :=
  match source with
  | none => [.column clause name]
  | some source => [.fixed (sourceAlias source ++ "."), .column clause name]

/-- A condition on a column of a source. -/
def predicatePieces (clause : Clause) (source : Option Nat) : Predicate → List Piece
  | .isNull name => columnPieces clause source name ++ [.fixed " IS NULL"]
  | .isNotNull name => columnPieces clause source name ++ [.fixed " IS NOT NULL"]
  | .compare name comparator place =>
    columnPieces clause source name ++
      [.fixed (" " ++ comparator.spelling ++ " :" ++ placeholderName place)]

/-- Conditions behind what they follow, if there are any. -/
def conditionPieces (source : Option Nat) (predicates : List Predicate) : List Piece :=
  if predicates.isEmpty then []
  else .fixed " WHERE " ::
    separated " AND " (predicates.map (predicatePieces .narrowed source))

/-- The name in a term of an order, behind blanks. -/
def orderedName (term : List Char) : String :=
  String.ofList ((term.dropWhile isBlank).takeWhile isNamePart)

/-- A term of an order: the name in it, and what stands before and behind that. -/
def termPieces (term : List Char) : List Piece :=
  [.fixed (String.ofList (term.takeWhile isBlank)), .column .ranked (orderedName term),
    .fixed (String.ofList ((term.dropWhile isBlank).dropWhile isNamePart))]

/-- The terms of a ranking's order as they are written. -/
def Ranking.termTexts (ranking : Ranking) : List (List Char) :=
  match ranking.order with
  | none => []
  | some order => if order = "" then [] else splitCommas order.toList

/-- The order of a ranking. -/
def Ranking.orderPieces (ranking : Ranking) : List Piece :=
  match ranking.termTexts with
  | [] => [.unordered]
  | terms => .fixed " ORDER BY " :: separated "," (terms.map termPieces)

/-- The records of a table with their ranks. -/
def Ranking.pieces (ranking : Ranking) (table : String) : List Piece :=
  [.fixed "SELECT *, ROW_NUMBER() OVER (PARTITION BY ", .column .grouped ranking.key] ++
    ranking.orderPieces ++ [.fixed ") AS _rn FROM ", .table table] ++
    conditionPieces none ranking.conditions

/-- The rows that are joined. -/
def Join.sourcePieces (join : Join) : List Piece :=
  match join.ranking with
  | none => [.table join.table]
  | some ranking =>
    .fixed "(SELECT * FROM (" :: ranking.pieces join.table ++
      [.fixed (") ranked WHERE _rn <= " ++ intText ranking.cap ++ ")")]

/-- A join whose rows become the given source. -/
def Join.pieces (source : Nat) (join : Join) : List Piece :=
  .fixed " LEFT JOIN " :: join.sourcePieces ++
    .fixed (" " ++ sourceAlias source ++ " ON ") :: columnPieces .joined (some source) join.key ++
    .fixed " = " :: columnPieces .joined (some join.parent.source) join.parent.column ++
    join.conditions.flatMap fun predicate =>
      .fixed " AND " :: predicatePieces .joined (some source) predicate

/-- A returned column with its label. -/
def SelectedColumn.pieces (selected : SelectedColumn) : List Piece :=
  columnPieces .returned (some selected.ref.source) selected.ref.column ++
    [.fixed " AS ", .label selected.label]

/-- The pieces of a statement in front of its joins. -/
def Statement.front (statement : Statement) : List Piece :=
  .fixed "SELECT " :: separated ", " (statement.columns.map SelectedColumn.pieces) ++
    [.fixed " FROM ", .table statement.table, .fixed " t0"]

/-- The pieces of the joins of a statement, join by join. -/
def Statement.joinPieces (statement : Statement) : List (List Piece) :=
  statement.joins.mapIdx fun position => Join.pieces (position + 1)

/-- The pieces of a statement between its joins and its cap. -/
def Statement.back (statement : Statement) : List Piece :=
  conditionPieces (some 0) statement.conditions ++
    .fixed " ORDER BY " :: separated ", "
      (statement.order.map fun ref => columnPieces .sorted (some ref.source) ref.column)

/-- The pieces of a statement. -/
def Statement.pieces (statement : Statement) : List Piece :=
  statement.front ++ statement.joinPieces.flatten ++ statement.back ++ [.cap statement.cap]

section Writing

variable (dialect : Dialect)

@[simp] theorem Dialect.write_nil : dialect.write [] = "" := rfl

@[simp] theorem Dialect.write_cons (piece : Piece) (rest : List Piece) :
    dialect.write (piece :: rest) = dialect.writePiece piece ++ dialect.write rest :=
  String.join_cons

/-- Pieces that follow each other are written one after the other. -/
@[simp] theorem Dialect.write_append (first second : List Piece) :
    dialect.write (first ++ second) = dialect.write first ++ dialect.write second := by
  -- The induction is on the pieces in front.
  induction first with
  | nil => simp
  | cons piece rest ih => simp [ih, String.append_assoc]

/-- So are lists of pieces. -/
theorem Dialect.write_flatten (parts : List (List Piece)) :
    dialect.write parts.flatten = String.join (parts.map dialect.write) := by
  induction parts with
  | nil => rfl
  | cons part rest ih => simp [ih]

/-- Separated pieces are written with the separator between them. -/
theorem Dialect.write_separated (separator : String) (parts : List (List Piece)) :
    dialect.write (separated separator parts) =
      separator.intercalate (parts.map dialect.write) := by
  -- A separator is written for each part but the last one.
  unfold separated
  induction parts with
  | nil => rfl
  | cons part rest ih =>
    cases rest with
    | nil => simp [List.intercalate_singleton]
    | cons next rest =>
      rw [List.intercalate_cons_cons, Dialect.write_append, Dialect.write_append, ih]
      simp [String.intercalate_cons_cons, Dialect.writePiece, String.append_assoc]

/-- A column is written as it is anywhere but in the order of a ranking. -/
theorem Dialect.write_columnPieces {clause : Clause} (unranked : clause ≠ .ranked)
    (source : Option Nat) (name : String) :
    dialect.write (columnPieces clause source name) = dialect.column source name := by
  -- In the order of a ranking a name is written without marks, and only there.
  cases source <;> simp [columnPieces, writePiece, spell, unranked, column]

/-- So is a condition. -/
theorem Dialect.write_predicatePieces {clause : Clause} (unranked : clause ≠ .ranked)
    (source : Option Nat) (predicate : Predicate) :
    dialect.write (predicatePieces clause source predicate) = dialect.predicate source predicate := by
  -- Every condition is a column and fixed text.
  cases predicate <;>
    simp [predicatePieces, dialect.write_columnPieces unranked, writePiece, Dialect.predicate,
      String.append_assoc]

/-- Conditions are written behind what they follow, if there are any. -/
theorem Dialect.write_conditionPieces (source : Option Nat) (predicates : List Predicate) :
    dialect.write (conditionPieces source predicates) =
      if predicates.isEmpty then "" else " WHERE " ++ dialect.conjunction source predicates := by
  unfold conditionPieces
  -- The conditions narrow a table, so their columns are written as usual.
  split
  · rfl
  · have each : (dialect.write ∘ predicatePieces .narrowed source) = dialect.predicate source :=
      funext fun predicate => dialect.write_predicatePieces (by decide) source predicate
    rw [write_cons, write_separated, List.map_map, each]
    rfl

/-- A term of an order is written as it stands there. -/
theorem Dialect.write_termPieces (term : List Char) :
    dialect.write (termPieces term) = String.ofList term := by
  -- The name in a term and what follows it make the term again.
  simp only [termPieces, orderedName, write_cons, write_nil, writePiece, spell, if_true,
    String.append_empty, ← String.ofList_append, List.takeWhile_append_dropWhile]

/-- Every text has a part between commas. -/
theorem splitCommas_ne_nil (cs : List Char) : splitCommas cs ≠ [] := by
  -- Even the empty text has one, the empty part.
  cases cs with
  | nil => simp [splitCommas]
  | cons c rest =>
    unfold splitCommas
    split
    · simp
    · split <;> simp

/-- A ranking has no terms exactly when its order says nothing. -/
theorem Ranking.termTexts_eq_nil (ranking : Ranking) :
    ranking.termTexts = [] ↔ ranking.order.getD "" = "" := by
  -- An empty order says as little as none.
  unfold termTexts
  cases ranking.order with
  | none => simp
  | some order => by_cases empty : order = "" <;> simp [empty, splitCommas_ne_nil]

/-- The order of a ranking is written as the dialect writes it. -/
theorem Dialect.write_orderPieces (ranking : Ranking) :
    dialect.write ranking.orderPieces = dialect.rankingOrder ranking.order := by
  have each : dialect.write ∘ termPieces = String.ofList := funext dialect.write_termPieces
  unfold Ranking.orderPieces Ranking.termTexts
  cases ranking.order with
  | none => simp [writePiece]
  | some order =>
    by_cases empty : order = ""
    · subst empty
      simp [writePiece, rankingOrder]
    · -- An order that says something is written term by term.
      have some : splitCommas order.toList ≠ [] := splitCommas_ne_nil order.toList
      simp only [if_neg empty]
      rw [write_cons, write_separated, List.map_map, each, intercalate_splitCommas]
      unfold rankingOrder
      split
      · contradiction
      · contradiction
      · simp [writePiece]

/-- Conditions that hold together have a text unless there are none. -/
theorem Dialect.conjunction_eq_empty (source : Option Nat) (predicates : List Predicate) :
    dialect.conjunction source predicates = "" ↔ predicates.isEmpty = true := by
  cases predicates with
  | nil => exact ⟨fun _ => rfl, fun _ => rfl⟩
  | cons predicate rest =>
    -- The text of the first predicate is not empty, so neither is the whole.
    have filled : dialect.predicate source predicate ≠ "" := by
      cases predicate <;> simp [Dialect.predicate, String.append_eq_empty_iff]
    cases rest <;> simp [conjunction, String.intercalate_cons_cons, String.append_eq_empty_iff, filled]

/-- Ranked records are written as the dialect writes them. -/
theorem Dialect.write_rankingPieces (ranking : Ranking) (table : String) :
    dialect.write (ranking.pieces table) =
      dialect.ranked table ranking.key ranking.order
        (dialect.conjunction none ranking.conditions) := by
  -- Conditions are left out when their text is empty, which is when there are none.
  unfold Dialect.ranked
  simp only [Ranking.pieces, write_append, write_cons, write_nil, writePiece, spell,
    write_orderPieces, write_conditionPieces, dialect.conjunction_eq_empty, String.append_assoc]
  simp

/-- A join is written as the dialect writes it. -/
theorem Dialect.write_joinPieces (source : Nat) (join : Join) :
    dialect.write (join.pieces source) = dialect.join source join := by
  -- The rows, the conditions and the two columns of the keys are written one by one.
  have rows : dialect.write join.sourcePieces = dialect.joined join := by
    unfold Join.sourcePieces Dialect.joined
    cases join.ranking with
    | none => simp [writePiece]
    | some ranking => simp [writePiece, write_rankingPieces, String.append_assoc]
  have conditions : dialect.write (join.conditions.flatMap fun predicate =>
        .fixed " AND " :: predicatePieces .joined (some source) predicate) =
      String.join (join.conditions.map fun p => " AND " ++ dialect.predicate (some source) p) := by
    rw [List.flatMap_def, write_flatten, List.map_map]
    simp [Function.comp_def, dialect.write_predicatePieces, writePiece]
  have own : dialect.write (columnPieces .joined (some source) join.key) =
      dialect.column (some source) join.key := dialect.write_columnPieces (by decide) ..
  have other : dialect.write (columnPieces .joined (some join.parent.source) join.parent.column) =
      dialect.column (some join.parent.source) join.parent.column :=
    dialect.write_columnPieces (by decide) ..
  unfold Join.pieces Dialect.join
  simp only [write_append, write_cons, rows, conditions, own, other, writePiece,
    String.append_assoc]

/-- A statement is written from its pieces. -/
theorem Dialect.statement_eq_write (statement : Statement) :
    dialect.statement statement = dialect.write statement.pieces := by
  -- The columns, the joins and the order are written one by one.
  have columns : statement.columns.map (dialect.write ∘ SelectedColumn.pieces) =
      statement.columns.map dialect.selected := by
    refine List.map_congr_left fun selected _ => ?_
    simp [SelectedColumn.pieces, dialect.write_columnPieces, writePiece, Dialect.selected,
      String.append_assoc]
  have joins : dialect.write statement.joinPieces.flatten =
      String.join (statement.joins.mapIdx fun position => dialect.join (position + 1)) := by
    rw [write_flatten, Statement.joinPieces]
    congr 1
    refine List.ext_getElem? fun position => ?_
    simp only [List.getElem?_map, List.getElem?_mapIdx, Option.map_map, Function.comp_def,
      write_joinPieces]
  have order : statement.order.map
        (dialect.write ∘ fun ref => columnPieces .sorted (some ref.source) ref.column) =
      statement.order.map fun ref => dialect.column (some ref.source) ref.column :=
    List.map_congr_left fun ref _ => dialect.write_columnPieces (by decide) ..
  -- The cap is written behind everything else.
  have capped (text : String) : dialect.capRows text statement.cap =
      text ++ dialect.capRows "" statement.cap := by
    rw [← capRows_append, String.append_empty]
  unfold Dialect.statement Statement.pieces Statement.front Statement.back
  simp only [write_append, write_cons, write_nil, write_separated, write_conditionPieces,
    List.map_map, columns, joins, order, writePiece]
  rw [capped]
  -- What is left is the same text in other brackets.
  simp only [String.append_assoc, String.append_empty]

end Writing

section Membership

variable {P : Piece → Prop}

/-- Something holds of separated pieces when it holds of each part. -/
theorem forall_mem_separated {separator : String} (between : P (.fixed separator))
    {parts : List (List Piece)} :
    (∀ piece ∈ separated separator parts, P piece) ↔ ∀ part ∈ parts, ∀ piece ∈ part, P piece := by
  -- The separator is one of the fixed pieces, and does not count.
  unfold separated
  induction parts with
  | nil => simp
  | cons part rest ih =>
    cases rest with
    | nil => simp [List.intercalate_singleton]
    | cons next rest =>
      rw [List.intercalate_cons_cons, List.forall_mem_append, List.forall_mem_append, ih]
      simp [between]

variable (fixed : ∀ text, P (.fixed text))
include fixed

/-- The pieces of a column are the column and what every dialect writes alike. -/
theorem forall_mem_columnPieces {clause : Clause} {source : Option Nat} {name : String} :
    (∀ piece ∈ columnPieces clause source name, P piece) ↔ P (.column clause name) := by
  cases source <;> simp [columnPieces, fixed]

/-- So are the pieces of a condition. -/
theorem forall_mem_predicatePieces {clause : Clause} {source : Option Nat} {predicate : Predicate} :
    (∀ piece ∈ predicatePieces clause source predicate, P piece) ↔
      P (.column clause predicate.column) := by
  -- Only the column of a condition is not fixed.
  cases predicate <;>
    simp only [predicatePieces, List.forall_mem_append, forall_mem_columnPieces fixed,
      List.forall_mem_singleton, fixed, and_true, Predicate.column]

/-- The pieces of conditions are those of each condition. -/
theorem forall_mem_conditionPieces {source : Option Nat} {predicates : List Predicate} :
    (∀ piece ∈ conditionPieces source predicates, P piece) ↔
      ∀ predicate ∈ predicates, P (.column .narrowed predicate.column) := by
  -- Without conditions there is no piece at all.
  unfold conditionPieces
  split
  · rename_i empty
    simp [List.isEmpty_iff.mp empty]
  · simp only [List.forall_mem_cons, fixed, true_and, forall_mem_separated (fixed _),
      List.forall_mem_map, forall_mem_predicatePieces fixed]

/-- The pieces of a ranking's order are the names in its terms, if there are any. -/
theorem Ranking.forall_mem_orderPieces {ranking : Ranking} :
    (∀ piece ∈ ranking.orderPieces, P piece) ↔
      (ranking.termTexts = [] → P .unordered) ∧
        ∀ term ∈ ranking.termTexts, P (.column .ranked (orderedName term)) := by
  -- Without terms there is the piece for no order.
  unfold orderPieces
  cases ranking.termTexts with
  | nil => simp
  | cons term rest =>
    simp only [List.forall_mem_cons, fixed, true_and, forall_mem_separated (fixed _),
      List.forall_mem_map]
    simp [termPieces, fixed]

/-- The pieces of ranked records. -/
theorem Ranking.forall_mem_pieces {ranking : Ranking} {table : String} :
    (∀ piece ∈ ranking.pieces table, P piece) ↔
      P (.column .grouped ranking.key) ∧ (∀ piece ∈ ranking.orderPieces, P piece) ∧
        P (.table table) ∧
        ∀ predicate ∈ ranking.conditions, P (.column .narrowed predicate.column) := by
  -- The key, the order, the table and the conditions follow each other.
  unfold pieces
  simp only [List.forall_mem_append, forall_mem_conditionPieces fixed]
  simp [fixed, and_assoc]

/-- The pieces of a join. -/
theorem Join.forall_mem_pieces {join : Join} {source : Nat} :
    (∀ piece ∈ join.pieces source, P piece) ↔
      (∀ ranking ∈ join.ranking, ∀ piece ∈ ranking.pieces join.table, P piece) ∧
        (join.ranking = none → P (.table join.table)) ∧ P (.column .joined join.key) ∧
        P (.column .joined join.parent.column) ∧
        ∀ predicate ∈ join.conditions, P (.column .joined predicate.column) := by
  -- The rows are those of a table, or ranked ones.
  have rows : (∀ piece ∈ join.sourcePieces, P piece) ↔
      (∀ ranking ∈ join.ranking, ∀ piece ∈ ranking.pieces join.table, P piece) ∧
        (join.ranking = none → P (.table join.table)) := by
    unfold sourcePieces
    cases join.ranking <;> simp [fixed, or_imp, forall_and]
  simp only [pieces, List.forall_mem_append, List.forall_mem_cons, fixed, true_and, rows,
    List.forall_mem_flatMap, forall_mem_columnPieces fixed, forall_mem_predicatePieces fixed,
    and_assoc]

/-- The pieces of a statement in front of its joins are its returned columns and its table. -/
theorem Statement.forall_mem_front {statement : Statement} :
    (∀ piece ∈ statement.front, P piece) ↔
      (∀ selected ∈ statement.columns,
        P (.column .returned selected.ref.column) ∧ P (.label selected.label)) ∧
        P (.table statement.table) := by
  -- The returned columns are separated by commas.
  have columns : (∀ piece ∈ separated ", " (statement.columns.map SelectedColumn.pieces), P piece) ↔
      ∀ selected ∈ statement.columns,
        P (.column .returned selected.ref.column) ∧ P (.label selected.label) := by
    simp only [forall_mem_separated (fixed _), List.forall_mem_map, SelectedColumn.pieces,
      List.forall_mem_append, forall_mem_columnPieces fixed, List.forall_mem_cons, fixed, true_and,
      List.not_mem_nil, IsEmpty.forall_iff, implies_true, and_true]
  unfold front
  simp only [List.forall_mem_append, List.forall_mem_cons, columns, fixed, true_and, List.not_mem_nil,
    IsEmpty.forall_iff, implies_true, and_true]

/-- The pieces behind its joins are its conditions and its order. -/
theorem Statement.forall_mem_back {statement : Statement} :
    (∀ piece ∈ statement.back, P piece) ↔
      (∀ predicate ∈ statement.conditions, P (.column .narrowed predicate.column)) ∧
        ∀ ref ∈ statement.order, P (.column .sorted ref.column) := by
  -- So are the columns of the order.
  have order : (∀ piece ∈ separated ", " (statement.order.map fun ref =>
        columnPieces .sorted (some ref.source) ref.column), P piece) ↔
      ∀ ref ∈ statement.order, P (.column .sorted ref.column) := by
    simp only [forall_mem_separated (fixed _), List.forall_mem_map, forall_mem_columnPieces fixed]
  unfold back
  simp only [List.forall_mem_append, List.forall_mem_cons, order, fixed, true_and,
    forall_mem_conditionPieces fixed]

/-- The pieces of joins are those of each join, whatever sources their rows become. -/
theorem Statement.forall_mem_joinPieces {statement : Statement} :
    (∀ piece ∈ statement.joinPieces.flatten, P piece) ↔
      ∀ join ∈ statement.joins, ∀ source, ∀ piece ∈ join.pieces source, P piece := by
  rw [List.forall_mem_flatten]
  constructor
  -- The pieces of a join differ from source to source only in what is fixed.
  · intro each join member source
    obtain ⟨i, inside, rfl⟩ := List.mem_iff_getElem.mp member
    have written := each _ (List.mem_mapIdx.mpr ⟨i, inside, rfl⟩)
    rw [Join.forall_mem_pieces fixed] at written ⊢
    exact written
  · intro each part member
    obtain ⟨i, inside, rfl⟩ := List.mem_mapIdx.mp member
    exact each _ (List.getElem_mem inside) (i + 1)

/-- The pieces of a statement are those of its parts and its cap. -/
theorem Statement.forall_mem_pieces {statement : Statement} :
    (∀ piece ∈ statement.pieces, P piece) ↔
      (∀ piece ∈ statement.front, P piece) ∧
        (∀ join ∈ statement.joins, ∀ source, ∀ piece ∈ join.pieces source, P piece) ∧
        (∀ piece ∈ statement.back, P piece) ∧ P (.cap statement.cap) := by
  -- The front, the joins, the back and the cap follow each other.
  unfold pieces
  simp only [List.forall_mem_append, forall_mem_joinPieces fixed, List.forall_mem_singleton,
    and_assoc]

end Membership

end Joinery
