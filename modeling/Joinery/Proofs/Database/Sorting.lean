import Joinery.Proofs.Database.Order

/-! Joined rows are returned in the order of their sort keys, up to the cap. -/

namespace Joinery

open Std (OrientedCmp TransCmp)

/-- An order that is not the other way round in two steps is not so in one. -/
theorem ne_gt_trans {α : Type} {cmp : α → α → Ordering} [TransCmp cmp] {a b c : α}
    (first : cmp a b ≠ .gt) (second : cmp b c ≠ .gt) : cmp a c ≠ .gt := by
  -- The three values are in order one after the other.
  have below := Ordering.ne_gt_iff_isLE.mp first
  have above := Ordering.ne_gt_iff_isLE.mp second
  exact Ordering.ne_gt_iff_isLE.mpr (TransCmp.isLE_trans below above)

/-- Of two values one is not larger than the other. -/
theorem ne_gt_total {α : Type} {cmp : α → α → Ordering} [OrientedCmp cmp] (a b : α) :
    cmp a b ≠ .gt ∨ cmp b a ≠ .gt := by
  -- Swapping the values swaps the order.
  rw [@OrientedCmp.eq_swap _ cmp _ b a]
  cases cmp a b <;> simp

/-- Two values of which neither is larger are in one place. -/
theorem eq_of_ne_gt {α : Type} {cmp : α → α → Ordering} [OrientedCmp cmp] {a b : α}
    (first : cmp a b ≠ .gt) (second : cmp b a ≠ .gt) : cmp a b = .eq := by
  -- Swapping the values turns smaller into larger.
  rw [@OrientedCmp.eq_swap _ cmp] at second
  cases order : cmp a b with
  | lt => simp [order] at second
  | eq => rfl
  | gt => exact absurd order first

/-- Sorting brings nothing before something smaller. -/
theorem pairwise_mergeSort_of_cmp {α β : Type} (cmp : β → β → Ordering) [TransCmp cmp] (key : α → β)
    (items : List α) :
    (items.mergeSort fun a b => cmp (key a) (key b) != .gt).Pairwise
      fun a b => cmp (key a) (key b) ≠ .gt := by
  -- The order is transitive and total, which is all that sorting asks for.
  have transitive : ∀ a b c, (cmp (key a) (key b) != .gt) = true →
      (cmp (key b) (key c) != .gt) = true → (cmp (key a) (key c) != .gt) = true := by
    intro a b c first second
    simp only [bne_iff_ne] at first second ⊢
    exact ne_gt_trans first second
  have total : ∀ a b, ((cmp (key a) (key b) != .gt) || (cmp (key b) (key a) != .gt)) = true := by
    intro a b
    have either : cmp (key a) (key b) ≠ .gt ∨ cmp (key b) (key a) ≠ .gt := ne_gt_total _ _
    simpa using either
  simpa using List.pairwise_mergeSort transitive total items

variable {statement : Statement} {database : Database} {parameters : List Parameter}
  {joined other : JoinedRow}

/-- Capped rows are among all rows. -/
theorem mem_of_mem_capRows {α : Type} {cap : Int} {rows : List α} {row : α}
    (member : row ∈ capRows cap rows) : row ∈ rows := by
  -- A cap leaves all rows or the first ones.
  simp only [capRows] at member
  split at member
  · exact member
  · exact List.mem_of_mem_take member

/-- A cap that is not smaller than the number of rows leaves all of them. -/
theorem capRows_eq_self {α : Type} {cap : Int} {rows : List α} (enough : rows.length ≤ cap) :
    capRows cap rows = rows := by
  -- The first rows, as many as the cap says, are all rows.
  rw [capRows, if_neg (by omega), List.take_of_length_le (by omega)]

/-- A smaller cap leaves the first of the rows that a larger one leaves. -/
theorem capRows_eq_take {α : Type} {cap larger : Int} (least : 0 ≤ cap) (below : cap ≤ larger)
    (rows : List α) : capRows cap rows = (capRows larger rows).take cap.toNat := by
  -- Neither cap is negative, so both take rows from the front.
  rw [capRows, if_neg (by omega), capRows, if_neg (by omega), List.take_take]
  congr 1
  omega

/-- A cap leaves no more rows than it says. -/
theorem length_capRows_le {α : Type} {cap : Int} (least : 0 ≤ cap) (rows : List α) :
    ((capRows cap rows).length : Int) ≤ cap := by
  -- No more rows are taken, and there may be fewer.
  rw [capRows, if_neg (by omega), List.length_take]
  omega

/-- A positive cap leaves the first row. -/
theorem head?_capRows {α : Type} {cap : Int} (positive : 0 < cap) (rows : List α) :
    (capRows cap rows).head? = rows.head? := by
  -- At least one row is taken.
  rw [capRows, if_neg (by omega), List.head?_take, if_neg (by omega)]

/-- A returned row is a joined row. -/
theorem Statement.mem_joinedRows_of_mem_resultRows
    (member : joined ∈ statement.resultRows database parameters) :
    joined ∈ statement.joinedRows database parameters := by
  -- Neither sorting nor the cap makes up rows.
  exact (List.mergeSort_perm _ _).mem_iff.mp (mem_of_mem_capRows member)

/-- When the cap is not smaller than the number of joined rows, all of them are returned. -/
theorem Statement.mem_resultRows_of_complete
    (complete : (statement.joinedRows database parameters).length ≤ statement.cap)
    (member : joined ∈ statement.joinedRows database parameters) :
    joined ∈ statement.resultRows database parameters := by
  -- Sorting keeps the number of rows, so the cap cuts nothing off.
  rw [Statement.resultRows, capRows_eq_self (by simpa using complete)]
  exact (List.mergeSort_perm _ _).mem_iff.mpr member

/-- Under a positive cap no joined row has a smaller sort key than the first returned one. -/
theorem Statement.head_resultRows_least (positive : 0 < statement.cap)
    (first : (statement.resultRows database parameters).head? = some joined)
    (member : other ∈ statement.joinedRows database parameters) :
    orderCells (statement.sortKey (statement.sources database parameters) joined)
      (statement.sortKey (statement.sources database parameters) other) ≠ .gt := by
  -- The first of the sorted rows stands before every other one.
  rw [Statement.resultRows, head?_capRows positive] at first
  have sorted := pairwise_mergeSort_of_cmp orderCells
    (statement.sortKey (statement.sources database parameters))
    (statement.joinedRows database parameters)
  have inside := (List.mergeSort_perm (statement.joinedRows database parameters)
    (statement.sortedBefore (statement.sources database parameters))).mem_iff.mpr member
  obtain ⟨rest, same⟩ := List.head?_eq_some_iff.mp first
  change (List.mergeSort _ (statement.sortedBefore _)).Pairwise _ at sorted
  rw [same] at sorted inside
  rcases List.mem_cons.mp inside with here | later
  · rw [here, @Std.ReflCmp.compare_self _ orderCells]
    exact Ordering.noConfusion
  · exact List.rel_of_pairwise_cons sorted later

/-- Under a positive cap there is a first returned row as soon as there is a joined one. -/
theorem Statement.exists_head_resultRows (positive : 0 < statement.cap)
    (member : other ∈ statement.joinedRows database parameters) :
    ∃ first, (statement.resultRows database parameters).head? = some first := by
  -- Sorted rows are as many as before.
  rw [Statement.resultRows, head?_capRows positive]
  have inside := (List.mergeSort_perm (statement.joinedRows database parameters)
    (statement.sortedBefore (statement.sources database parameters))).mem_iff.mpr member
  cases sorted : (statement.joinedRows database parameters).mergeSort
      (statement.sortedBefore (statement.sources database parameters)) with
  | nil =>
    rw [sorted] at inside
    contradiction
  | cons first rest => exact ⟨first, rfl⟩

/-- Lists of cells that agree before a place are in the order of their cells at the place. -/
theorem orderCells_eq_lt {as bs : List Cell} {a b : Cell} (place : Nat)
    (front : as.take place = bs.take place) (atA : as[place]? = some a) (atB : bs[place]? = some b)
    (less : a.order b = .lt) : orderCells as bs = .lt := by
  -- Equal first cells leave the decision to the others.
  induction place generalizing as bs with
  | zero =>
    obtain ⟨restA, rfl⟩ := List.head?_eq_some_iff.mp (List.head?_eq_getElem?.trans atA)
    obtain ⟨restB, rfl⟩ := List.head?_eq_some_iff.mp (List.head?_eq_getElem?.trans atB)
    rw [orderCells, less]
    rfl
  | succ place ih =>
    cases as with
    | nil => contradiction
    | cons first restA =>
      cases bs with
      | nil => contradiction
      | cons second restB =>
        obtain ⟨rfl, rest⟩ := List.cons.inj front
        rw [orderCells, @Std.ReflCmp.compare_self _ Cell.order]
        exact ih rest atA atB

/-- Lists of cells in one place of their order have cells of one place everywhere. -/
theorem order_eq_of_orderCells {as bs : List Cell} (same : orderCells as bs = .eq) {place : Nat}
    {a b : Cell} (atA : as[place]? = some a) (atB : bs[place]? = some b) : a.order b = .eq := by
  -- A first difference anywhere would decide the order.
  induction as generalizing bs place with
  | nil => contradiction
  | cons first restA ih =>
    cases bs with
    | nil => contradiction
    | cons second restB =>
      obtain ⟨head, tail⟩ := Ordering.then_eq_eq.mp same
      cases place with
      | zero =>
        cases atA
        cases atB
        exact head
      | succ place => exact ih tail atA atB

/-- All joined rows in the order of their sort keys. -/
def Statement.sortedRows (statement : Statement) (database : Database)
    (parameters : List Parameter) : List JoinedRow :=
  (statement.joinedRows database parameters).mergeSort
    (statement.sortedBefore (statement.sources database parameters))

/-- Sorted rows are those that were joined. -/
theorem Statement.sortedRows_perm (statement : Statement) (database : Database)
    (parameters : List Parameter) :
    (statement.sortedRows database parameters).Perm
      (statement.joinedRows database parameters) :=
  -- Sorting rearranges.
  List.mergeSort_perm _ _

/-- No sorted row has a larger sort key than one behind it. -/
theorem Statement.pairwise_sortedRows (statement : Statement) (database : Database)
    (parameters : List Parameter) :
    (statement.sortedRows database parameters).Pairwise fun a b =>
      orderCells (statement.sortKey (statement.sources database parameters) a)
        (statement.sortKey (statement.sources database parameters) b) ≠ .gt :=
  -- Merge sort leaves a list that is sorted by the comparison of the keys.
  pairwise_mergeSort_of_cmp orderCells _ _

/-- The returned rows are the first sorted ones. -/
theorem Statement.resultRows_prefix (statement : Statement) (database : Database)
    (parameters : List Parameter) :
    statement.resultRows database parameters <+: statement.sortedRows database parameters := by
  -- A cap leaves all rows or the first ones.
  change capRows _ (statement.sortedRows database parameters) <+: _
  rw [capRows]
  split
  · exact List.prefix_rfl
  · exact List.take_prefix _ _

/-- A joined row with a smaller sort key than a returned one is returned before it. -/
theorem Statement.mem_front_of_smaller {front back : List JoinedRow}
    (returned : statement.resultRows database parameters = front ++ joined :: back)
    (member : other ∈ statement.joinedRows database parameters)
    (smaller : orderCells (statement.sortKey (statement.sources database parameters) other)
      (statement.sortKey (statement.sources database parameters) joined) = .lt) :
    other ∈ front := by
  -- Behind the returned row, cut off or not, there are no smaller keys.
  obtain ⟨cut, whole⟩ := statement.resultRows_prefix database parameters
  rw [returned, List.append_assoc, List.cons_append] at whole
  have inside := (statement.sortedRows_perm database parameters).mem_iff.mpr member
  have sorted := statement.pairwise_sortedRows database parameters
  rw [← whole] at inside sorted
  rcases List.mem_append.mp inside with before | behind
  · exact before
  · have least := (List.pairwise_append.mp sorted).2.1
    rcases List.mem_cons.mp behind with rfl | later
    · rw [@Std.ReflCmp.compare_self _ orderCells] at smaller
      contradiction
    · have ordered := List.rel_of_pairwise_cons least later
      rw [@OrientedCmp.eq_swap _ orderCells, smaller] at ordered
      exact absurd rfl ordered

end Joinery
