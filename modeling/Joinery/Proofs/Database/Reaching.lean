import Joinery.Proofs.Database.Joining
import Mathlib.Data.List.GetD

/-! The rows of a source that stand in joined rows are those that a chain of joins connects to a primary row. -/

namespace Joinery

variable {statement : Statement} {database : Database} {parameters : List Parameter}

/-- The rows of each source that a chain of joined rows connects to a primary row. -/
inductive Statement.Reaches (statement : Statement) (database : Database)
    (parameters : List Parameter) : Nat → Row → Prop
  /-- The primary rows begin the chains. -/
  | primary {row : Row} (member : row ∈ statement.primaryRows database parameters) :
    Reaches statement database parameters 0 row
  /-- A row goes on from a reached row of its parent. -/
  | joined {i : Nat} {join : Join} {parentRow row : Row} (at_ : statement.joins[i]? = some join)
    (parent : Reaches statement database parameters join.parent.source parentRow)
    (member : row ∈ (join.source database parameters).rows)
    (linked : join.links (statement.sources database parameters)
      (join.source database parameters) parameters parentRow row = true) :
    Reaches statement database parameters (i + 1) row

/-- Every join hangs from the primary source or from a join before it. -/
def Statement.ParentsBefore (statement : Statement) : Prop :=
  ∀ (i : Nat) (join : Join), statement.joins[i]? = some join → join.parent.source ≤ i

/-- Every join compares its key with a column that its parent has. -/
def Statement.ParentsResolved (statement : Statement) (database : Database)
    (parameters : List Parameter) : Prop :=
  ∀ join ∈ statement.joins, (sourceAt (statement.sources database parameters)
    join.parent.source).hasColumn (readBack join.parent.column) = true

/-- Each join with the rows that it can match. -/
def Statement.joinedSources (statement : Statement) (database : Database)
    (parameters : List Parameter) : List (Join × Relation) :=
  statement.joins.zip (statement.sources database parameters).tail

/-- A join stands beside its own source. -/
theorem Statement.getElem?_joinedSources {i : Nat} {join : Join}
    (at_ : statement.joins[i]? = some join) :
    (statement.joinedSources database parameters)[i]? =
      some (join, join.source database parameters) := by
  -- The sources behind the primary one are made of the joins in order.
  simp [Statement.joinedSources, Statement.sources, List.getElem?_zip_eq_some, at_]

/-- The source of a join comes after the primary one. -/
theorem Statement.sourceAt_succ {i : Nat} {join : Join} (at_ : statement.joins[i]? = some join) :
    sourceAt (statement.sources database parameters) (i + 1) =
      join.source database parameters := by
  -- The sources behind the primary one are made of the joins in order.
  simp [sourceAt, Statement.sources, List.getD_eq_getElem?_getD, at_]

/-- Joined rows begin with a primary row and go on over all joins. -/
theorem Statement.mem_joinedRows {joined : JoinedRow} :
    joined ∈ statement.joinedRows database parameters ↔
      ∃ row ∈ statement.primaryRows database parameters,
        Extends (statement.sources database parameters) parameters
          (statement.joinedSources database parameters) [row] joined := by
  -- The starts are the primary rows, each for itself.
  rw [Statement.joinedRows, mem_joinAll]
  simp [Statement.joinedSources]

/-- The first row of a joined row is a primary row. -/
theorem Statement.head_mem_primaryRows {joined : JoinedRow}
    (member : joined ∈ statement.joinedRows database parameters) :
    joined.getD 0 [] ∈ statement.primaryRows database parameters := by
  -- What is joined later stands behind it.
  obtain ⟨row, inside, more⟩ := mem_joinedRows.mp member
  obtain ⟨added, rfl, _⟩ := more.eq_append
  simpa using inside

/-- A joined row has one row for each source. -/
theorem Statement.length_of_mem_joinedRows {joined : JoinedRow}
    (member : joined ∈ statement.joinedRows database parameters) :
    joined.length = statement.joins.length + 1 := by
  -- Each join adds one row to the primary one.
  obtain ⟨row, _, more⟩ := mem_joinedRows.mp member
  obtain ⟨added, rfl, length⟩ := more.eq_append
  simp [length, Statement.joinedSources, Statement.sources]

/-- At each join a joined row falls into what the join looked at, its own row, and what came later. -/
theorem Statement.split_of_mem_joinedRows {joined : JoinedRow}
    (member : joined ∈ statement.joinedRows database parameters) {i : Nat} {join : Join}
    (at_ : statement.joins[i]? = some join) :
    ∃ start front own later, start ∈ statement.primaryRows database parameters ∧
      Extends (statement.sources database parameters) parameters
        ((statement.joinedSources database parameters).take i) [start] front ∧
      Attached (join.source database parameters)
        (join.accepts (statement.sources database parameters) (join.source database parameters)
          parameters front) own ∧
      front.length = i + 1 ∧ joined = front ++ own :: later := by
  -- The joins before it added one row each to the primary one.
  obtain ⟨start, primary, more⟩ := mem_joinedRows.mp member
  obtain ⟨front, own, first, attached, last⟩ := (extends_at (getElem?_joinedSources at_)).mp more
  obtain ⟨later, same, _⟩ := last.eq_append
  obtain ⟨added, rfl, length⟩ := first.eq_append
  have inside : i < (statement.joinedSources database parameters).length :=
    (List.getElem?_eq_some_iff.mp (getElem?_joinedSources at_)).1
  refine ⟨start, _, own, later, primary, first, attached, ?_, by simpa using same⟩
  rw [List.length_append, length, List.length_take, List.length_singleton]
  omega

/-- In a joined row each join stands with a row that is attached to the row of its parent. -/
theorem Statement.attached_of_mem_joinedRows (before : statement.ParentsBefore)
    {joined : JoinedRow} (member : joined ∈ statement.joinedRows database parameters) {i : Nat}
    {join : Join} (at_ : statement.joins[i]? = some join) :
    Attached (join.source database parameters)
      (join.links (statement.sources database parameters) (join.source database parameters)
        parameters (joined.getD join.parent.source [])) (joined.getD (i + 1) []) := by
  -- Up to its join a joined row is the part that the join looked at.
  obtain ⟨_, front, own, later, _, _, attached, length, rfl⟩ := split_of_mem_joinedRows member at_
  have parentBefore := before i join at_
  have seen : (front ++ own :: later).getD join.parent.source [] =
      front.getD join.parent.source [] := List.getD_append _ _ _ _ (by omega)
  have placed : (front ++ own :: later).getD (i + 1) [] = own := by
    simp [List.getD_eq_getElem?_getD, ← length]
  rw [placed, seen]
  exact attached

/-- A row with a value that stands in a joined row is reached. -/
theorem Statement.reaches_of_mem_joinedRows (before : statement.ParentsBefore)
    (resolved : statement.ParentsResolved database parameters) {joined : JoinedRow}
    (member : joined ∈ statement.joinedRows database parameters) {source : Nat}
    (inside : source ≤ statement.joins.length) {name : String}
    (found : (sourceAt (statement.sources database parameters) source).hasColumn name = true)
    (present : ((sourceAt (statement.sources database parameters) source).cell name
      (joined.getD source [])).isNull = false) :
    statement.Reaches database parameters source (joined.getD source []) := by
  -- A row with a value was accepted, so the key of its parent has a value, and the parent is reached.
  induction source using Nat.strongRecOn generalizing name with
  | ind source ih =>
    cases source with
    | zero => exact .primary (head_mem_primaryRows member)
    | succ i =>
      have at_ : statement.joins[i]? = some statement.joins[i] := List.getElem?_eq_getElem inside
      rcases attached_of_mem_joinedRows before member at_ with ⟨own, linked⟩ | ⟨empty, _⟩
      · have agree := linked
        rw [Join.links, Bool.and_eq_true] at agree
        have parentBefore := before i _ at_
        have parent := ih statement.joins[i].parent.source (by omega) (by omega)
          (resolved _ (List.getElem_mem inside)) (isNull_eq_false_of_columnsAgree agree.1).2
        exact .joined at_ parent own linked
      · -- The row without values has none in the column either.
        rw [sourceAt_succ at_] at found present
        rw [empty, Relation.cell_nullRow found] at present
        contradiction

/-- Every reached row stands in some joined row: the joins after it drop nothing. -/
theorem Statement.exists_joined_of_reaches (before : statement.ParentsBefore) {source : Nat}
    {row : Row} (reached : statement.Reaches database parameters source row) :
    ∃ joined ∈ statement.joinedRows database parameters, joined.getD source [] = row := by
  -- The joined row of the parent is kept up to the join, and goes on from there with the row.
  induction reached with
  | @primary row inside =>
    obtain ⟨joined, more⟩ := exists_extends (statement.sources database parameters) parameters
      (statement.joinedSources database parameters) [row]
    obtain ⟨added, rfl, _⟩ := more.eq_append
    exact ⟨_, mem_joinedRows.mpr ⟨row, inside, more⟩, by simp⟩
  | @joined i join parentRow row at_ _ inside linked ih =>
    obtain ⟨other, member, seen⟩ := ih
    obtain ⟨start, front, _, later, primary, first, _, length, rfl⟩ :=
      split_of_mem_joinedRows member at_
    have parentBefore := before i join at_
    have kept : front.getD join.parent.source [] = parentRow := by
      rw [← seen]
      exact (List.getD_append _ _ _ _ (by omega)).symm
    obtain ⟨joined, rest⟩ := exists_extends (statement.sources database parameters) parameters
      ((statement.joinedSources database parameters).drop (i + 1)) (front ++ [row])
    refine ⟨joined, mem_joinedRows.mpr ⟨start, primary, ?_⟩, ?_⟩
    · refine (extends_at (getElem?_joinedSources at_)).mpr ⟨_, row, first, .inl ⟨inside, ?_⟩, rest⟩
      rw [Join.accepts_eq_links, kept]
      exact linked
    · obtain ⟨tail, rfl, _⟩ := rest.eq_append
      simp [List.getD_eq_getElem?_getD, ← length]

/-- Two statements that match the same rows at some sources, and link them to the same rows before. -/
structure Statement.Shares (database : Database) (statement : Statement)
    (parameters : List Parameter) (other : Statement) (others : List Parameter)
    (shared : Nat → Prop) : Prop where
  /-- The primary rows are the same. -/
  primaryRows : other.primaryRows database others = statement.primaryRows database parameters
  /-- There are as many joins. -/
  length : other.joins.length = statement.joins.length
  /-- A shared source hangs from a shared one. -/
  parents : ∀ (i : Nat) (join : Join), statement.joins[i]? = some join → shared (i + 1) →
    shared join.parent.source
  /-- The joins of a shared source match the same rows and link them alike. -/
  joins : ∀ (i : Nat) (join paired : Join), statement.joins[i]? = some join →
    other.joins[i]? = some paired → shared (i + 1) →
      paired.parent.source = join.parent.source ∧
      paired.source database others = join.source database parameters ∧
      paired.links (other.sources database others) (paired.source database others) others =
        join.links (statement.sources database parameters) (join.source database parameters)
          parameters

variable {other : Statement} {others : List Parameter} {shared : Nat → Prop}

/-- What two statements share they share from either side. -/
theorem Statement.Shares.symm (shares : Shares database statement parameters other others shared) :
    Shares database other others statement parameters shared where
  primaryRows := shares.primaryRows.symm
  length := shares.length.symm
  parents := by
    intro i paired at_ inside
    -- The join of the first statement at the same place tells the parent.
    obtain ⟨short, _⟩ := List.getElem?_eq_some_iff.mp at_
    have placed := List.getElem?_eq_getElem (shares.length ▸ short)
    rw [(shares.joins i _ paired placed at_ inside).1]
    exact shares.parents i _ placed inside
  joins := by
    intro i paired join atPaired atJoin inside
    obtain ⟨parent, source, links⟩ := shares.joins i join paired atJoin atPaired inside
    exact ⟨parent.symm, source.symm, links.symm⟩

/-- At a shared source a row that one statement reaches is reached by the other one. -/
theorem Statement.Shares.reaches (shares : Shares database statement parameters other others shared)
    {source : Nat} {row : Row} (inside : shared source)
    (reached : statement.Reaches database parameters source row) :
    other.Reaches database others source row := by
  -- The chain that leads to the row goes through shared sources only.
  induction reached with
  | primary member => exact .primary (shares.primaryRows ▸ member)
  | @joined i join parentRow row at_ _ member linked ih =>
    obtain ⟨short, _⟩ := List.getElem?_eq_some_iff.mp at_
    have placed := List.getElem?_eq_getElem (shares.length ▸ short : i < other.joins.length)
    obtain ⟨parent, source, links⟩ := shares.joins i join _ at_ placed inside
    refine .joined placed (parent ▸ ih (shares.parents i join at_ inside)) (source ▸ member) ?_
    rw [links]
    exact linked

/-- At a shared source both statements reach the same rows. -/
theorem Statement.Shares.reaches_iff
    (shares : Shares database statement parameters other others shared) {source : Nat}
    (inside : shared source) (row : Row) :
    other.Reaches database others source row ↔ statement.Reaches database parameters source row :=
  -- Sharing is symmetric, so one direction is enough.
  ⟨shares.symm.reaches inside, shares.reaches inside⟩

end Joinery
