import Joinery.Proofs.Database.Checking
import Joinery.Proofs.Database.Fitting
import Joinery.Database.Fetching

/-! The order in which tables store their rows plays no part in what a statement finds, checks and fetches. -/

namespace Joinery

/-- Two relations with the same columns and the same rows, each in an order of its own. -/
structure Relation.Reordered (relation other : Relation) : Prop where
  /-- The columns are the same. -/
  columns : other.columns = relation.columns
  /-- The rows are the same up to order. -/
  rows : other.rows.Perm relation.rows

instance (relation other : Relation) : Decidable (relation.Reordered other) :=
  decidable_of_iff (_ ∧ _) ⟨fun ⟨columns, rows⟩ => ⟨columns, rows⟩,
    fun ⟨columns, rows⟩ => ⟨columns, rows⟩⟩

/-- Two databases with the same tables, each of which stores its rows in an order of its own. -/
def Database.Reordered (database other : Database) : Prop :=
  ∀ name, Option.Rel Relation.Reordered (database.table? name) (other.table? name)

/-- The sources of two statements, one by one in any order of their rows. -/
def SourcesReordered (sources others : List Relation) : Prop :=
  ∀ source, (sourceAt sources source).Reordered (sourceAt others source)

variable {relation other : Relation} {database stored : Database} {sources others : List Relation}
  {parameters : List Parameter} {statement : Statement}

/-- A relation is in an order of itself. -/
theorem Relation.Reordered.refl (relation : Relation) : relation.Reordered relation :=
  ⟨rfl, .refl _⟩

/-- A relation is in another order where its rows are put in one. -/
theorem Relation.reordered_reorder {rows : List Row} (same : rows.Perm relation.rows) :
    relation.Reordered (relation.reorder rows same) :=
  ⟨rfl, same⟩

/-- Tables that are put in other orders one by one make up a reordered database. -/
theorem Database.reordered_of_tables
    (tables : List.Forall₂ (fun table paired : Table => paired.name = table.name ∧
      table.relation.Reordered paired.relation) database.tables stored.tables) :
    database.Reordered stored := by
  intro name
  rw [table?, table?]
  -- The first table of a name stands at the same place in both.
  generalize database.tables = front, stored.tables = back at tables ⊢
  induction tables with
  | nil => exact .none
  | cons head _ ih =>
    rw [List.find?_cons, List.find?_cons, head.1]
    split
    · exact .some head.2
    · exact ih

/-- A cell is found by its column. -/
theorem Relation.cell_congr (same : other.columns = relation.columns) :
    other.cell = relation.cell := by
  -- The position of a column is all that the cell depends on.
  unfold cell position?
  rw [same]

/-- Rows are compared by their cells. -/
theorem compareTerms_congr (same : other.columns = relation.columns) :
    compareTerms other = compareTerms relation := by
  -- The terms are compared one by one, each by its two cells.
  funext terms a b
  induction terms with
  | nil => rfl
  | cons term rest ih =>
    simp only [compareTerms, OrderTerm.compare, Relation.cell_congr same, ih]

/-- What a column prefers is told by the column. -/
theorem Relation.affinity_congr (same : other.columns = relation.columns) :
    other.affinity = relation.affinity := by
  -- The position of a column is all that its affinity depends on.
  unfold affinity position?
  rw [same]

/-- Whether a column is there is told by the columns. -/
theorem Relation.hasColumn_congr (same : other.columns = relation.columns) :
    other.hasColumn = relation.hasColumn := by
  -- The position of a column is all that its presence depends on.
  unfold hasColumn position?
  rw [same]

/-- The row without values has one cell for each column. -/
theorem Relation.nullRow_congr (same : other.columns = relation.columns) :
    other.nullRow = relation.nullRow := by
  rw [nullRow, nullRow, same]

/-- Whether conditions hold of a row is told by its cells and the columns. -/
theorem satisfies_congr (same : other.columns = relation.columns) (predicates : List Predicate)
    (parameters : List Parameter) :
    satisfies predicates parameters other = satisfies predicates parameters relation := by
  -- A predicate reads a cell and the affinity of its column.
  funext row
  simp only [satisfies, Predicate.judge, Relation.cell_congr same, Relation.affinity_congr same]

/-- Whether two rows agree is told by their cells and the columns. -/
theorem columnsAgree_congr {parent parentToo : Relation}
    (same : other.columns = relation.columns) (sameParent : parentToo.columns = parent.columns)
    (key parentKey : String) :
    columnsAgree other key parentToo parentKey = columnsAgree relation key parent parentKey := by
  -- Each side is read from its own relation.
  funext row parentRow
  simp only [columnsAgree, Relation.cell_congr same, Relation.affinity_congr same,
    Relation.cell_congr sameParent, Relation.affinity_congr sameParent]

/-- A join links rows by what their cells hold. -/
theorem SourcesReordered.links_eq (alike : SourcesReordered sources others)
    (same : other.columns = relation.columns) (join : Join) (parameters : List Parameter) :
    join.links others other parameters = join.links sources relation parameters := by
  -- A join compares two keys and tests the conditions, and both are told by the columns.
  funext parentRow row
  rw [Join.links, Join.links, columnsAgree_congr same (alike join.parent.source).columns,
    satisfies_congr same]

/-- A row is attached in the same way, whatever the order of the others is. -/
theorem attached_reordered (reordered : relation.Reordered other) (accepts : Row → Bool)
    (row : Row) : Attached other accepts row ↔ Attached relation accepts row := by
  -- A row is attached when it is accepted, or when no row is, and neither depends on an order.
  unfold Attached
  simp only [reordered.rows.mem_iff, Relation.nullRow_congr reordered.columns]

/-- The cells of joined rows are the same. -/
theorem SourcesReordered.cell_eq (alike : SourcesReordered sources others) (ref : ColumnRef) :
    ref.cell others = ref.cell sources := by
  -- The source of the column has the same columns in both.
  funext joined
  rw [ColumnRef.cell, ColumnRef.cell, Relation.cell_congr (alike ref.source).columns]

/-- So are the sort keys. -/
theorem SourcesReordered.sortKey_eq (alike : SourcesReordered sources others)
    (statement : Statement) : statement.sortKey others = statement.sortKey sources := by
  -- The key is made of cells.
  funext joined
  simp only [Statement.sortKey, alike.cell_eq]

/-- So is what is fetched of them, or fails to be. -/
theorem SourcesReordered.fetchRow_eq (alike : SourcesReordered sources others)
    (columns : List SelectedColumn) (types : Entries SemanticType) :
    fetchRow columns types others = fetchRow columns types sources := by
  -- A fetched row is made of cells.
  funext joined
  simp only [fetchRow, alike.cell_eq]

/-- A table is there in both databases or in neither. -/
theorem Database.Reordered.isSome_eq (reordered : database.Reordered stored) (name : String) :
    (stored.table? name).isSome = (database.table? name).isSome := by
  -- Reordered tables come in pairs, and so do missing ones.
  have same := reordered name
  generalize database.table? name = found, stored.table? name = foundToo at same ⊢
  cases same <;> rfl

/-- What stands for a table has the same rows in both databases. -/
theorem Database.Reordered.tableOrEmpty (reordered : database.Reordered stored) (name : String) :
    (database.tableOrEmpty name).Reordered (stored.tableOrEmpty name) := by
  rw [Database.tableOrEmpty, Database.tableOrEmpty]
  -- A missing table is missing in both.
  have same := reordered (readBack name)
  generalize database.table? (readBack name) = found, stored.table? (readBack name) = foundToo
    at same ⊢
  cases same with
  | none => exact .refl _
  | some rows => exact rows

/-- Without rankings the sources of a statement are the tables. -/
theorem Database.Reordered.sourcesReordered (reordered : database.Reordered stored)
    (unranked : ∀ join ∈ statement.joins, join.ranking = none) (parameters : List Parameter) :
    SourcesReordered (statement.sources database parameters)
      (statement.sources stored parameters) := by
  intro source
  cases source with
  | zero => exact reordered.tableOrEmpty _
  | succ i =>
    cases at_ : statement.joins[i]? with
    | none =>
      -- There is no source beyond the last join.
      have missing (database : Database) :
          sourceAt (statement.sources database parameters) (i + 1) = .empty := by
        simp [sourceAt, Statement.sources, List.getD_eq_getElem?_getD, at_]
      rw [missing, missing]
      exact .refl _
    | some join =>
      rw [Statement.sourceAt_succ at_, Statement.sourceAt_succ at_]
      have plain := unranked join (List.mem_of_getElem? at_)
      simp only [Join.source, plain]
      exact reordered.tableOrEmpty _

/-- A check finds the same names, or misses the same one first. -/
theorem Database.Reordered.check_eq (reordered : database.Reordered stored)
    (alike : SourcesReordered (statement.sources database parameters)
      (statement.sources stored parameters)) :
    statement.check stored parameters = statement.check database parameters := by
  -- Each check asks for tables or for columns, and reordering changes neither.
  have tables : checkTable stored = checkTable database := by
    funext table
    rw [checkTable, checkTable, reordered.isSome_eq]
  have rankings : Join.checkRanking stored = Join.checkRanking database := by
    funext join
    have same := Relation.hasColumn_congr (reordered.tableOrEmpty join.table).columns
    have terms : checkTerm (stored.tableOrEmpty join.table) =
        checkTerm (database.tableOrEmpty join.table) := by
      funext term
      rw [checkTerm, checkTerm, same]
    simp only [Join.checkRanking, checkPlainColumn, terms, same]
  have columns : checkColumn (statement.sources stored parameters) =
      checkColumn (statement.sources database parameters) := by
    funext ref
    rw [checkColumn, checkColumn, Relation.hasColumn_congr (alike ref.source).columns]
  have joins : checkJoin (statement.sources stored parameters) =
      checkJoin (statement.sources database parameters) := by
    funext numbered
    simp only [checkJoin, checkPredicates, columns]
  simp only [Statement.check, tables, rankings, checkPredicates, columns, joins]

/-- Both databases have the same primary rows. -/
theorem Database.Reordered.primaryRows_perm (reordered : database.Reordered stored)
    (statement : Statement) (parameters : List Parameter) :
    (statement.primaryRows stored parameters).Perm (statement.primaryRows database parameters) := by
  -- The conditions hold of the same rows, so the rest is the order.
  have same := reordered.tableOrEmpty statement.table
  rw [Statement.primaryRows, Statement.primaryRows, Relation.restrict, Relation.restrict,
    satisfies_congr same.columns]
  exact same.rows.filter _

/-- The same rows of all sources fit together. -/
theorem Database.Reordered.fits_iff (reordered : database.Reordered stored)
    (unranked : ∀ join ∈ statement.joins, join.ranking = none) (joined : JoinedRow) :
    statement.Fits stored parameters joined ↔ statement.Fits database parameters joined := by
  have alike := reordered.sourcesReordered unranked parameters
  have primary := (reordered.primaryRows_perm statement parameters).mem_iff
    (a := joined.getD 0 [])
  -- Each join attaches the same rows to the row of its parent.
  have attached (i : Nat) (join : Join) (at_ : statement.joins[i]? = some join) :
      Attached (join.source stored parameters) (join.links (statement.sources stored parameters)
        (join.source stored parameters) parameters (joined.getD join.parent.source []))
        (joined.getD (i + 1) []) ↔
      Attached (join.source database parameters) (join.links (statement.sources database parameters)
        (join.source database parameters) parameters (joined.getD join.parent.source []))
        (joined.getD (i + 1) []) := by
    have same := alike (i + 1)
    rw [Statement.sourceAt_succ at_, Statement.sourceAt_succ at_] at same
    rw [alike.links_eq same.columns, attached_reordered same]
  constructor
  · intro fits
    exact ⟨fits.length, primary.mp fits.primary,
      fun i join at_ => (attached i join at_).mp (fits.attached i join at_)⟩
  · intro fits
    exact ⟨fits.length, primary.mpr fits.primary,
      fun i join at_ => (attached i join at_).mpr (fits.attached i join at_)⟩

end Joinery
