import Joinery.Database.Resolution
import Joinery.Proofs.Outcome

/-! Joined rows take one row of every source: one that is accepted, or none where none is. -/

namespace Joinery

/-- How a row comes to stand in a joined row: it is accepted, or it has no values and none is accepted. -/
def Attached (source : Relation) (accepts : Row → Bool) (row : Row) : Prop :=
  (row ∈ source.rows ∧ accepts row = true) ∨
    (row = source.nullRow ∧ ∀ other ∈ source.rows, accepts other = false)

/-- Some row can always be attached. -/
theorem exists_attached (source : Relation) (accepts : Row → Bool) :
    ∃ row, Attached source accepts row := by
  -- Without an accepted row the one without values is attached.
  by_cases found : ∃ row ∈ source.rows, accepts row = true
  · obtain ⟨row, member, accepted⟩ := found
    exact ⟨row, .inl ⟨member, accepted⟩⟩
  · refine ⟨source.nullRow, .inr ⟨rfl, fun other member => ?_⟩⟩
    exact Bool.eq_false_iff.mpr fun accepted => found ⟨other, member, accepted⟩

/-- A left join extends every row by all rows that can be attached to it. -/
theorem mem_leftJoin {rows : List JoinedRow} {source : Relation} {accepts : JoinedRow → Row → Bool}
    {joined : JoinedRow} :
    joined ∈ leftJoin rows source accepts ↔
      ∃ start ∈ rows, ∃ row, Attached source (accepts start) row ∧ joined = start ++ [row] := by
  -- The accepted rows of one start either exist, or the row without values stands for them.
  simp only [leftJoin, List.mem_flatMap]
  refine exists_congr fun start => and_congr_right fun _ => ?_
  split
  · rename_i none
    have refused : ∀ other ∈ source.rows, accepts start other = false := by
      simpa [List.filter_eq_nil_iff] using none
    constructor
    · intro member
      exact ⟨_, .inr ⟨rfl, refused⟩, List.mem_singleton.mp member⟩
    · rintro ⟨row, ⟨member, accepted⟩ | ⟨rfl, _⟩, rfl⟩
      · simp [refused row member] at accepted
      · exact List.mem_singleton_self _
  · rename_i some
    constructor
    · intro member
      obtain ⟨row, inside, rfl⟩ := List.mem_map.mp member
      exact ⟨row, .inl (List.mem_filter.mp inside), rfl⟩
    · rintro ⟨row, ⟨member, accepted⟩ | ⟨rfl, refused⟩, rfl⟩
      · exact List.mem_map.mpr ⟨row, List.mem_filter.mpr ⟨member, accepted⟩, rfl⟩
      · exact absurd (List.filter_eq_nil_iff.mpr fun other inside => by simp [refused other inside]) some

variable {sources : List Relation} {parameters : List Parameter}

/-- A joined row goes on from a start by one attached row for each join. -/
def Extends (sources : List Relation) (parameters : List Parameter) :
    List (Join × Relation) → JoinedRow → JoinedRow → Prop
  | [], start, joined => joined = start
  | (join, source) :: rest, start, joined =>
    -- A row is accepted by looking at the rows joined before it.
    ∃ row, Attached source (join.accepts sources source parameters start) row ∧
      Extends sources parameters rest (start ++ [row]) joined

/-- Joining sources one after the other gives exactly the rows that go on from a start. -/
theorem mem_joinAll {joins : List (Join × Relation)} {rows : List JoinedRow} {joined : JoinedRow} :
    joined ∈ joinAll sources parameters joins rows ↔
      ∃ start ∈ rows, Extends sources parameters joins start joined := by
  -- The first join makes the starts of the others.
  induction joins generalizing rows with
  | nil => simp [joinAll, Extends]
  | cons first rest ih =>
    obtain ⟨join, source⟩ := first
    rw [joinAll, ih]
    constructor
    · rintro ⟨middle, member, more⟩
      obtain ⟨start, inside, row, attached, rfl⟩ := mem_leftJoin.mp member
      exact ⟨start, inside, row, attached, more⟩
    · rintro ⟨start, inside, row, attached, more⟩
      exact ⟨start ++ [row], mem_leftJoin.mpr ⟨start, inside, row, attached, rfl⟩, more⟩

/-- Every start goes on in some way: no join drops a row. -/
theorem exists_extends (sources : List Relation) (parameters : List Parameter)
    (joins : List (Join × Relation)) (start : JoinedRow) :
    ∃ joined, Extends sources parameters joins start joined := by
  -- Each join can attach some row.
  induction joins generalizing start with
  | nil => exact ⟨start, rfl⟩
  | cons first rest ih =>
    obtain ⟨join, source⟩ := first
    obtain ⟨row, attached⟩ := exists_attached source (join.accepts sources source parameters start)
    obtain ⟨joined, more⟩ := ih (start ++ [row])
    exact ⟨joined, row, attached, more⟩

/-- Going on over two lists of joins is going on over one after the other. -/
theorem extends_append {front back : List (Join × Relation)} {start joined : JoinedRow} :
    Extends sources parameters (front ++ back) start joined ↔
      ∃ middle, Extends sources parameters front start middle ∧
        Extends sources parameters back middle joined := by
  -- The front is gone through join by join.
  induction front generalizing start with
  | nil => simp [Extends]
  | cons first rest ih =>
    obtain ⟨join, source⟩ := first
    simp only [List.cons_append, Extends, ih]
    constructor
    · rintro ⟨row, attached, middle, first, second⟩
      exact ⟨middle, ⟨row, attached, first⟩, second⟩
    · rintro ⟨middle, ⟨row, attached, first⟩, second⟩
      exact ⟨row, attached, middle, first, second⟩

/-- What is joined later stands behind what was there, one row for each join. -/
theorem Extends.eq_append {joins : List (Join × Relation)} {start joined : JoinedRow}
    (more : Extends sources parameters joins start joined) :
    ∃ added, joined = start ++ added ∧ added.length = joins.length := by
  -- Each join adds one row to the end.
  induction joins generalizing start with
  | nil => exact ⟨[], by simpa [Extends] using more, rfl⟩
  | cons first rest ih =>
    obtain ⟨join, source⟩ := first
    obtain ⟨row, _, more⟩ := more
    obtain ⟨added, rfl, length⟩ := ih more
    exact ⟨row :: added, by simp, by simp [length]⟩

/-- A joined row goes through each join: up to it, over one attached row, and on behind it. -/
theorem extends_at {joins : List (Join × Relation)} {start joined : JoinedRow} {i : Nat}
    {join : Join} {source : Relation} (at_ : joins[i]? = some (join, source)) :
    Extends sources parameters joins start joined ↔
      ∃ middle row, Extends sources parameters (joins.take i) start middle ∧
        Attached source (join.accepts sources source parameters middle) row ∧
        Extends sources parameters (joins.drop (i + 1)) (middle ++ [row]) joined := by
  -- The join stands between those before it and those after it.
  obtain ⟨inside, same⟩ := List.getElem?_eq_some_iff.mp at_
  have split : joins = joins.take i ++ (join, source) :: joins.drop (i + 1) := by
    rw [← same, List.getElem_cons_drop, List.take_append_drop]
  conv => lhs; rw [split]
  rw [extends_append]
  exact exists_congr fun middle =>
    ⟨fun ⟨first, row, attached, last⟩ => ⟨row, first, attached, last⟩,
      fun ⟨row, first, attached, last⟩ => ⟨first, row, attached, last⟩⟩

/-- Whether two rows have equal values in two columns, as the database compares these columns. -/
def columnsAgree (child : Relation) (key : String) (parent : Relation) (parentKey : String)
    (row parentRow : Row) : Bool :=
  let affinity := (child.affinity key).joint (parent.affinity parentKey)
  ((affinity.apply (child.cell key row)).equals
    (affinity.apply (parent.cell parentKey parentRow))).holds

/-- Whether a row hangs from a row of the parent of a join. -/
def Join.links (join : Join) (sources : List Relation) (source : Relation)
    (parameters : List Parameter) (parentRow row : Row) : Bool :=
  columnsAgree source (readBack join.key) (sourceAt sources join.parent.source)
      (readBack join.parent.column) row parentRow &&
    satisfies join.conditions parameters source row

/-- Of the rows before it a join looks at one only, that of its parent. -/
theorem Join.accepts_eq_links (join : Join) (sources : List Relation) (source : Relation)
    (parameters : List Parameter) (joined : JoinedRow) (row : Row) :
    join.accepts sources source parameters joined row =
      join.links sources source parameters (joined.getD join.parent.source []) row := by
  -- Both sides compare the same two cells.
  rfl

/-- No value equals nothing. -/
theorem isNull_eq_false_of_equals {a b : Cell} (same : (a.equals b).holds = true) :
    a.isNull = false ∧ b.isNull = false := by
  -- A comparison with no value stays open.
  cases a <;> cases b <;> simp_all [Cell.equals, Cell.compare?, Cell.isNull, Truth.holds]

/-- A preference does not make a value out of nothing. -/
theorem Affinity.apply_null (affinity : Affinity) : affinity.apply .null = .null := by
  -- All three preferences leave it as it is.
  cases affinity <;> rfl

/-- Rows that agree on two columns have a value in each of them. -/
theorem isNull_eq_false_of_columnsAgree {child parent : Relation} {key parentKey : String}
    {row parentRow : Row} (agree : columnsAgree child key parent parentKey row parentRow = true) :
    (child.cell key row).isNull = false ∧ (parent.cell parentKey parentRow).isNull = false := by
  -- What is compared has a value, so it had one before the preference was applied.
  obtain ⟨first, second⟩ := isNull_eq_false_of_equals agree
  constructor
  · cases same : child.cell key row <;> simp_all [Affinity.apply_null, Cell.isNull]
  · cases same : parent.cell parentKey parentRow <;> simp_all [Affinity.apply_null, Cell.isNull]

/-- The row without values has none in any column. -/
theorem Relation.cell_nullRow {relation : Relation} {name : String}
    (found : relation.hasColumn name = true) : relation.cell name relation.nullRow = .null := by
  -- All its cells are null, and a cell beyond its end counts as null too.
  simp only [Relation.hasColumn, Option.isSome_iff_exists] at found
  obtain ⟨position, found⟩ := found
  simp only [Relation.cell, found, Relation.nullRow, List.getD_eq_getElem?_getD, List.getElem?_map]
  cases relation.columns[position]? <;> rfl

end Joinery
