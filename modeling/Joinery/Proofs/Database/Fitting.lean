import Joinery.Proofs.Database.Reaching
import Mathlib.Data.List.Nodup

/-! Joined rows are told by their parts: each row of one fits the row that it hangs from. -/

namespace Joinery

variable {statement : Statement} {database : Database} {parameters : List Parameter}
  {joined other : JoinedRow}

/-- A row of every source, each one attached to the row of its parent. -/
structure Statement.Fits (statement : Statement) (database : Database)
    (parameters : List Parameter) (joined : JoinedRow) : Prop where
  /-- There is one row for each source. -/
  length : joined.length = statement.joins.length + 1
  /-- The first row is a primary one. -/
  primary : joined.getD 0 [] ∈ statement.primaryRows database parameters
  /-- Every other row is attached to the row of its parent. -/
  attached : ∀ (i : Nat) (join : Join), statement.joins[i]? = some join →
    Attached (join.source database parameters)
      (join.links (statement.sources database parameters) (join.source database parameters)
        parameters (joined.getD join.parent.source [])) (joined.getD (i + 1) [])

/-- Rows that fit are joined one after the other. -/
theorem Statement.Fits.extends (before : statement.ParentsBefore)
    (fits : statement.Fits database parameters joined) {n : Nat}
    (bounded : n ≤ statement.joins.length) :
    Extends (statement.sources database parameters) parameters
      ((statement.joinedSources database parameters).take n) [joined.getD 0 []]
      (joined.take (n + 1)) := by
  -- The next join looks at a row that was joined before, and attaches the next one.
  induction n with
  | zero =>
    have filled : 0 < joined.length := by rw [fits.length]; omega
    rw [List.take_zero, Extends, List.take_one, List.getD_eq_getElem?_getD,
      List.getElem?_eq_getElem filled, List.head?_eq_getElem?, List.getElem?_eq_getElem filled]
    rfl
  | succ n ih =>
    have at_ := List.getElem?_eq_getElem (Nat.lt_of_succ_le bounded)
    have placed : (statement.joinedSources database parameters)[n]? = some _ :=
      getElem?_joinedSources at_
    have inside : n + 1 < joined.length := by rw [fits.length]; omega
    -- The parent is joined before the next row, so it is seen among those that were joined so far.
    have parentBefore := before n _ at_
    rw [List.take_add_one, placed, extends_append]
    refine ⟨_, ih (Nat.le_of_succ_le bounded), joined.getD (n + 1) [], ?_, ?_⟩
    · have attached := fits.attached n _ at_
      have seen : (joined.take (n + 1)).getD statement.joins[n].parent.source [] =
          joined.getD statement.joins[n].parent.source [] := by
        rw [List.getD_eq_getElem?_getD, List.getElem?_take_of_lt (by omega),
          List.getD_eq_getElem?_getD]
      rw [← seen] at attached
      exact attached
    · rw [Extends, List.take_add_one, List.getD_eq_getElem?_getD, List.getElem?_eq_getElem inside]
      rfl

/-- The joined rows are exactly the rows of all sources that fit together. -/
theorem Statement.mem_joinedRows_iff (before : statement.ParentsBefore) :
    joined ∈ statement.joinedRows database parameters ↔
      statement.Fits database parameters joined := by
  constructor
  · -- What the joins attached one after the other is attached still.
    intro member
    exact ⟨length_of_mem_joinedRows member, head_mem_primaryRows member,
      fun i join at_ => attached_of_mem_joinedRows before member at_⟩
  · intro fits
    -- The joins that attach one row after the other come to the end of the row.
    have whole := fits.extends before (Nat.le_refl statement.joins.length)
    have sources : (statement.joinedSources database parameters).length =
        statement.joins.length := by
      simp [joinedSources, Statement.sources]
    rw [← fits.length, List.take_length, ← sources, List.take_length] at whole
    exact mem_joinedRows.mpr ⟨_, fits.primary, whole⟩

/-- A left join keeps rows apart: each start goes on in ways of its own. -/
theorem nodup_leftJoin {rows : List JoinedRow} {source : Relation}
    {accepts : JoinedRow → Row → Bool} (distinct : rows.Nodup) (apart : source.rows.Nodup) :
    (leftJoin rows source accepts).Nodup := by
  rw [leftJoin, List.nodup_flatMap]
  constructor
  · -- The ways of one start differ in their last row.
    intro start _
    split
    · exact List.nodup_singleton _
    · refine (apart.filter _).map fun a b same => ?_
      exact List.singleton_injective (List.append_cancel_left same)
  · refine distinct.imp fun {a b} different found inA inB => different ?_
    -- Without its last row a joined row is its start again.
    have ofA : found ∈ leftJoin [a] source accepts := by
      rw [leftJoin, List.flatMap_singleton]
      exact inA
    have ofB : found ∈ leftJoin [b] source accepts := by
      rw [leftJoin, List.flatMap_singleton]
      exact inB
    obtain ⟨first, single, row, _, rfl⟩ := mem_leftJoin.mp ofA
    obtain ⟨second, singleToo, rowToo, _, same⟩ := mem_leftJoin.mp ofB
    rw [← List.mem_singleton.mp single, ← List.mem_singleton.mp singleToo]
    exact List.append_inj_left' same rfl

/-- Joining sources one after the other keeps rows apart. -/
theorem nodup_joinAll {sources : List Relation} {joins : List (Join × Relation)}
    {rows : List JoinedRow} (distinct : rows.Nodup)
    (apart : ∀ pair ∈ joins, pair.2.rows.Nodup) :
    (joinAll sources parameters joins rows).Nodup := by
  -- What the first join leaves apart are the starts of the others.
  induction joins generalizing rows with
  | nil => exact distinct
  | cons first rest ih =>
    obtain ⟨join, source⟩ := first
    obtain ⟨head, tail⟩ := List.forall_mem_cons.mp apart
    exact ih (nodup_leftJoin distinct head) tail

/-- Where no source has a row twice, no joined row comes twice. -/
theorem Statement.nodup_joinedRows
    (apart : ∀ source ∈ statement.sources database parameters, source.rows.Nodup) :
    (statement.joinedRows database parameters).Nodup := by
  -- A joined row begins with its primary row, and each source adds rows of its own.
  obtain ⟨primary, others⟩ := List.forall_mem_cons.mp apart
  refine nodup_joinAll ?_ fun pair member => ?_
  · exact (primary.filter _).map List.singleton_injective
  · exact others _ (List.of_mem_zip member).2

/-- The sources that hang from a source, over whatever chain of joins, and the source itself. -/
inductive Statement.Below (statement : Statement) (top : Nat) : Nat → Prop
  /-- The source itself. -/
  | itself : Below statement top top
  /-- A join that hangs from one of them. -/
  | hanging {i : Nat} {join : Join} (at_ : statement.joins[i]? = some join)
    (parent : Below statement top join.parent.source) : Below statement top (i + 1)

/-- What hangs from a source comes after it. -/
theorem Statement.Below.le (before : statement.ParentsBefore) {top source : Nat}
    (below : statement.Below top source) : top ≤ source := by
  -- Every join comes after its parent.
  induction below with
  | itself => exact Nat.le_refl top
  | hanging at_ _ ih =>
    have parentBefore := before _ _ at_
    omega

/-- What hangs from something that hangs from a source hangs from the source. -/
theorem Statement.Below.trans {top middle source : Nat} (first : statement.Below top middle)
    (second : statement.Below middle source) : statement.Below top source := by
  -- The second chain is put behind the first one.
  induction second with
  | itself => exact first
  | hanging at_ _ ih => exact .hanging at_ ih

/-- A join hangs from a source when it is the source itself or its parent hangs from it. -/
theorem Statement.below_succ_iff {top i : Nat} {join : Join}
    (at_ : statement.joins[i]? = some join) :
    statement.Below top (i + 1) ↔ top = i + 1 ∨ statement.Below top join.parent.source := by
  -- A join that hangs from a source is that source, or hangs from it through its parent.
  constructor
  · intro below
    cases below with
    | itself => exact .inl rfl
    | hanging found parent =>
      cases at_.symm.trans found
      exact .inr parent
  · rintro (rfl | parent)
    · exact .itself
    · exact .hanging at_ parent

/-- A joined row with the rows of some sources taken from another one. -/
def graft (taken : Nat → Prop) [DecidablePred taken] (joined other : JoinedRow) : JoinedRow :=
  (List.range joined.length).map fun source =>
    if taken source then other.getD source [] else joined.getD source []

/-- At each source the grafted row has the row of one of the two. -/
theorem getD_graft (taken : Nat → Prop) [DecidablePred taken]
    (length : other.length = joined.length) (source : Nat) :
    (graft taken joined other).getD source [] =
      if taken source then other.getD source [] else joined.getD source [] := by
  by_cases inside : source < joined.length
  · simp [graft, List.getD_eq_getElem?_getD, inside]
  · -- Beyond the last source none of the three has a row.
    simp [graft, List.getD_eq_getElem?_getD, inside, length]

/--
Two joined rows can be grafted where they agree.

When they have one row at the parent of a source, that source and all below it can be taken from the
second row, and the rest from the first one.
-/
theorem Statement.exists_graft (before : statement.ParentsBefore)
    (member : joined ∈ statement.joinedRows database parameters)
    (otherMember : other ∈ statement.joinedRows database parameters) {i : Nat} {join : Join}
    (at_ : statement.joins[i]? = some join)
    (agree : joined.getD join.parent.source [] = other.getD join.parent.source []) :
    ∃ grafted ∈ statement.joinedRows database parameters,
      (∀ source, statement.Below (i + 1) source → grafted.getD source [] = other.getD source []) ∧
      ∀ source, ¬ statement.Below (i + 1) source → grafted.getD source [] = joined.getD source [] := by
  classical
  -- Rows that fit together are told by their sources, so it is enough to look at one source at a time.
  have fits := (mem_joinedRows_iff before).mp member
  have otherFits := (mem_joinedRows_iff before).mp otherMember
  have read := getD_graft (statement.Below (i + 1)) (otherFits.length.trans fits.length.symm)
  refine ⟨graft (statement.Below (i + 1)) joined other, (mem_joinedRows_iff before).mpr ⟨?_, ?_, ?_⟩,
    fun source below => by rw [read, if_pos below],
    fun source outside => by rw [read, if_neg outside]⟩
  · rw [graft, List.length_map, List.length_range, fits.length]
  · rw [read]
    split
    · exact otherFits.primary
    · exact fits.primary
  · intro j paired placed
    rw [read, read]
    by_cases here : j = i
    · -- The grafted source hangs from a row that both have.
      subst here
      cases placed.symm.trans at_
      have outside : ¬ statement.Below (j + 1) join.parent.source := by
        intro below
        have later := below.le before
        have parentBefore := before j join placed
        omega
      rw [if_neg outside, if_pos .itself, agree]
      exact otherFits.attached j join placed
    · -- Everywhere else a source and its parent are taken from one of the two.
      have together : statement.Below (i + 1) (j + 1) ↔
          statement.Below (i + 1) paired.parent.source := by
        rw [below_succ_iff placed]
        exact or_iff_right (by omega)
      by_cases inside : statement.Below (i + 1) paired.parent.source
      · rw [if_pos inside, if_pos (together.mpr inside)]
        exact otherFits.attached j paired placed
      · rw [if_neg inside, if_neg (mt together.mp inside)]
        exact fits.attached j paired placed

end Joinery
