import Joinery.Proofs.Database.Fitting
import Joinery.Proofs.Plan.Chains
import Joinery.Proofs.Result.Identifiers

/-! A planned statement sorts its rows by identifiers, source by source, which leaves no two rows in one place. -/

namespace Joinery

variable {registry : Registry} {query : Query} {database : Database} {entity : EntitySchema}
  {joined other : JoinedRow} {sources : List Relation}

/-- Rows that are told apart by their identifiers are different rows. -/
theorem EntitySchema.nodup_of_apart {relation : Relation}
    (apart : relation.rows.Pairwise (entity.StoredApart relation)) : relation.rows.Nodup := by
  -- No identifier differs from itself.
  refine apart.imp fun {a b} different same => ?_
  rw [StoredApart, same, Cell.same, @Std.ReflCmp.compare_self _ Cell.order] at different
  contradiction

/-- Of rows that can be attached to one row, no two have identifiers in one place. -/
theorem EntitySchema.eq_of_attached {source : Relation} {accepts : Row → Bool} {row paired : Row}
    (apart : source.rows.Pairwise (entity.StoredApart source))
    (attached : Attached source accepts row) (attachedToo : Attached source accepts paired)
    (same : (entity.identifierCell source row).order (entity.identifierCell source paired) = .eq) :
    row = paired := by
  -- The row without values is attached only where no other one is.
  rcases attached with ⟨member, accepted⟩ | ⟨rfl, refused⟩
  · rcases attachedToo with ⟨memberToo, _⟩ | ⟨_, refused⟩
    · by_contra different
      have unequal := apart.forall member memberToo different
      rw [StoredApart, Cell.same, same] at unequal
      contradiction
    · rw [refused row member] at accepted
      contradiction
  · rcases attachedToo with ⟨memberToo, accepted⟩ | ⟨rfl, _⟩
    · rw [refused paired memberToo] at accepted
      contradiction
    · rfl

/-- There is one entity for the primary table and one for each join. -/
theorem Planning.entities_length (parts : Planning registry query) :
    parts.entities.length = parts.plan.statement.joins.length + 1 := by
  rw [entities, List.length_cons, List.length_map, parts.joins_length]

/-- An entity behind the primary one belongs to a join. -/
theorem Planning.lt_joins_length (parts : Planning registry query) {i : Nat}
    (at_ : parts.entities[i + 1]? = some entity) : i < parts.plan.statement.joins.length := by
  -- The entities are the primary one and one for each join.
  obtain ⟨inside, _⟩ := List.getElem?_eq_some_iff.mp at_
  rw [parts.entities_length] at inside
  omega

/-- At the place of each source a sort key has the identifier of the row of that source. -/
theorem Planning.sortKey_getElem? (parts : Planning registry query) (sources : List Relation)
    (joined : JoinedRow) (source : Nat) :
    (parts.plan.statement.sortKey sources joined)[source]? = parts.entities[source]?.map
      fun entity => entity.identifierCell (sourceAt sources source) (joined.getD source []) := by
  -- The order names the identifiers source by source.
  change ((plannedOrder parts.primary parts.order.steps).map _)[source]? = _
  rw [List.getElem?_map, plannedOrder]
  cases source with
  | zero => rfl
  | succ i =>
    -- Behind the primary identifier the place of a step is that of its source.
    rw [List.getElem?_cons_succ, List.getElem?_mapIdx, entities, List.getElem?_cons_succ,
      List.getElem?_map, Option.map_map, Option.map_map]
    rfl

/-- Two rows that agree up to a source are in the order of their identifiers there. -/
theorem Planning.sortKey_lt (parts : Planning registry query) {source : Nat}
    (at_ : parts.entities[source]? = some entity)
    (front : ∀ before < source, joined.getD before [] = other.getD before [])
    (less : (entity.identifierCell (sourceAt sources source) (joined.getD source [])).order
      (entity.identifierCell (sourceAt sources source) (other.getD source [])) = .lt) :
    orderCells (parts.plan.statement.sortKey sources joined)
      (parts.plan.statement.sortKey sources other) = .lt := by
  refine orderCells_eq_lt source ?_ (by rw [sortKey_getElem?, at_]; rfl)
    (by rw [sortKey_getElem?, at_]; rfl) less
  -- Before the source both keys are made of the same rows.
  refine List.ext_getElem? fun before => ?_
  by_cases inside : before < source
  · rw [List.getElem?_take_of_lt inside, List.getElem?_take_of_lt inside, sortKey_getElem?,
      sortKey_getElem?, front before inside]
  · rw [List.getElem?_take_eq_none (by omega), List.getElem?_take_eq_none (by omega)]

/-- Each source of a plan tells its rows apart by the identifiers of its entity. -/
def Planning.SourcesApart (parts : Planning registry query) (database : Database) : Prop :=
  ∀ (source : Nat) (entity : EntitySchema), parts.entities[source]? = some entity →
    let relation := sourceAt (parts.plan.statement.sources database parts.plan.parameters) source
    relation.rows.Pairwise (entity.StoredApart relation)

variable {parts : Planning registry query}

/-- Where sources tell their rows apart, no joined row comes twice. -/
theorem Planning.nodup_joinedRows (apart : parts.SourcesApart database) :
    (parts.plan.statement.joinedRows database parts.plan.parameters).Nodup := by
  refine Statement.nodup_joinedRows fun source member => ?_
  obtain ⟨i, at_⟩ := List.mem_iff_getElem?.mp member
  obtain ⟨inside, _⟩ := List.getElem?_eq_some_iff.mp at_
  -- Every source belongs to an entity.
  have bounded : i < parts.entities.length := by
    rw [parts.entities_length]
    simpa [Statement.sources] using inside
  have distinct := apart i _ (List.getElem?_eq_getElem bounded)
  have same : sourceAt (parts.plan.statement.sources database parts.plan.parameters) i =
      source := by
    rw [sourceAt, List.getD_eq_getElem?_getD, at_]
    rfl
  simp only [same] at distinct
  exact EntitySchema.nodup_of_apart distinct

/-- Two joined rows agree above a source when they have one row at the source that it hangs from. -/
def Planning.AgreeAbove (parts : Planning registry query) (source : Nat)
    (joined other : JoinedRow) : Prop :=
  -- Nothing is above the primary source.
  ∀ (i : Nat) (join : Join), source = i + 1 → parts.plan.statement.joins[i]? = some join →
    joined.getD join.parent.source [] = other.getD join.parent.source []

/-- Joined rows that agree above a source have one row there if its identifiers are in one place. -/
theorem Planning.eq_of_identifier (apart : parts.SourcesApart database)
    (member : joined ∈ parts.plan.statement.joinedRows database parts.plan.parameters)
    (otherMember : other ∈ parts.plan.statement.joinedRows database parts.plan.parameters)
    {source : Nat} (agree : parts.AgreeAbove source joined other)
    (at_ : parts.entities[source]? = some entity)
    (same : (entity.identifierCell
        (sourceAt (parts.plan.statement.sources database parts.plan.parameters) source)
        (joined.getD source [])).order
      (entity.identifierCell
        (sourceAt (parts.plan.statement.sources database parts.plan.parameters) source)
        (other.getD source [])) = .eq) :
    joined.getD source [] = other.getD source [] := by
  have fits := (Statement.mem_joinedRows_iff parts.parentsBefore).mp member
  have otherFits := (Statement.mem_joinedRows_iff parts.parentsBefore).mp otherMember
  have distinct := apart source entity at_
  cases source with
  | zero =>
    -- Any row of the primary table can stand there.
    have attached : Attached _ (fun _ => true) (joined.getD 0 []) :=
      .inl ⟨List.mem_of_mem_filter fits.primary, rfl⟩
    have attachedToo : Attached _ (fun _ => true) (other.getD 0 []) :=
      .inl ⟨List.mem_of_mem_filter otherFits.primary, rfl⟩
    exact EntitySchema.eq_of_attached distinct attached attachedToo same
  | succ i =>
    -- Both rows are attached to the row that they hang from.
    have placed := List.getElem?_eq_getElem (parts.lt_joins_length at_)
    have attached := fits.attached i _ placed
    have attachedToo := otherFits.attached i _ placed
    rw [agree i _ rfl placed, ← Statement.sourceAt_succ placed] at attached
    rw [← Statement.sourceAt_succ placed] at attachedToo
    exact EntitySchema.eq_of_attached distinct attached attachedToo same

/-- No two joined rows have sort keys in one place. -/
theorem Planning.eq_of_sortKey (apart : parts.SourcesApart database)
    (member : joined ∈ parts.plan.statement.joinedRows database parts.plan.parameters)
    (otherMember : other ∈ parts.plan.statement.joinedRows database parts.plan.parameters)
    (same : orderCells
      (parts.plan.statement.sortKey
        (parts.plan.statement.sources database parts.plan.parameters) joined)
      (parts.plan.statement.sortKey
        (parts.plan.statement.sources database parts.plan.parameters) other) = .eq) :
    joined = other := by
  have length := Statement.length_of_mem_joinedRows member
  have lengthToo := Statement.length_of_mem_joinedRows otherMember
  -- Source by source both have one row, because the rows that they hang from are the same.
  have rows (source : Nat) (bounded : source < parts.entities.length) :
      joined.getD source [] = other.getD source [] := by
    induction source using Nat.strongRecOn with
    | ind source ih =>
      have at_ := List.getElem?_eq_getElem bounded
      refine eq_of_identifier apart member otherMember ?_ at_
        (order_eq_of_orderCells same (by rw [sortKey_getElem?, at_]; rfl)
          (by rw [sortKey_getElem?, at_]; rfl))
      rintro i join rfl placed
      have parentBefore := parts.parentsBefore i join placed
      exact ih _ (by omega) (by omega)
  refine List.ext_getElem (length.trans lengthToo.symm) fun source inside insideToo => ?_
  have equal := rows source (by rw [parts.entities_length, ← length]; exact inside)
  rwa [List.getD_eq_getElem _ _ inside, List.getD_eq_getElem _ _ insideToo] at equal

/-- So no two of them are in one place of the sorted order. -/
theorem Planning.pairwise_sortKey (apart : parts.SourcesApart database) :
    (parts.plan.statement.joinedRows database parts.plan.parameters).Pairwise fun a b =>
      orderCells
        (parts.plan.statement.sortKey
          (parts.plan.statement.sources database parts.plan.parameters) a)
        (parts.plan.statement.sortKey
          (parts.plan.statement.sources database parts.plan.parameters) b) ≠ .eq :=
  -- No joined row comes twice, and equal keys make equal rows.
  (nodup_joinedRows apart).imp_of_mem fun memberA memberB different same =>
    different (eq_of_sortKey apart memberA memberB same)

/--
A joined row can be improved by another one with which it agrees above a source.

Where the other one has the smaller identifier, its rows from that source on make a row with a smaller
sort key.
-/
theorem Planning.exists_smaller {source : Nat}
    (member : joined ∈ parts.plan.statement.joinedRows database parts.plan.parameters)
    (otherMember : other ∈ parts.plan.statement.joinedRows database parts.plan.parameters)
    (agree : parts.AgreeAbove source joined other) (at_ : parts.entities[source]? = some entity)
    (less : (entity.identifierCell
        (sourceAt (parts.plan.statement.sources database parts.plan.parameters) source)
        (other.getD source [])).order
      (entity.identifierCell
        (sourceAt (parts.plan.statement.sources database parts.plan.parameters) source)
        (joined.getD source [])) = .lt) :
    ∃ grafted ∈ parts.plan.statement.joinedRows database parts.plan.parameters,
      (∀ lower, parts.plan.statement.Below source lower →
        grafted.getD lower [] = other.getD lower []) ∧
      orderCells
        (parts.plan.statement.sortKey
          (parts.plan.statement.sources database parts.plan.parameters) grafted)
        (parts.plan.statement.sortKey
          (parts.plan.statement.sources database parts.plan.parameters) joined) = .lt := by
  cases source with
  | zero =>
    -- Nothing comes before the primary row.
    exact ⟨other, otherMember, fun _ _ => rfl,
      parts.sortKey_lt at_ (fun before earlier => absurd earlier (Nat.not_lt_zero before)) less⟩
  | succ i =>
    have placed := List.getElem?_eq_getElem (parts.lt_joins_length at_)
    obtain ⟨grafted, inside, below, outside⟩ :=
      Statement.exists_graft parts.parentsBefore member otherMember placed (agree i _ rfl placed)
    refine ⟨grafted, inside, below, parts.sortKey_lt at_ (fun before earlier => ?_) ?_⟩
    · -- What comes before a source does not hang from it.
      refine outside before fun hung => ?_
      have later := hung.le parts.parentsBefore
      omega
    · rw [below (i + 1) .itself]
      exact less

/-- A joined row with some kind of row at a source, before which no other such row is sorted. -/
structure Planning.First (parts : Planning registry query) (database : Database) (source : Nat)
    (kind : Row → Prop) (joined : JoinedRow) : Prop where
  /-- It is a joined row. -/
  member : joined ∈ parts.plan.statement.joinedRows database parts.plan.parameters
  /-- It has a row of the kind. -/
  chosen : kind (joined.getD source [])
  /-- No other one comes before it. -/
  least : ∀ other ∈ parts.plan.statement.joinedRows database parts.plan.parameters,
    kind (other.getD source []) → orderCells
      (parts.plan.statement.sortKey
        (parts.plan.statement.sources database parts.plan.parameters) other)
      (parts.plan.statement.sortKey
        (parts.plan.statement.sources database parts.plan.parameters) joined) ≠ .lt

/-- On the way to its source a first row has nowhere a larger identifier than others of the kind. -/
theorem Planning.First.ne_gt {kind : Row → Prop} {source above : Nat}
    (first : parts.First database source kind joined)
    (otherMember : other ∈ parts.plan.statement.joinedRows database parts.plan.parameters)
    (chosen : kind (other.getD source [])) (below : parts.plan.statement.Below above source)
    (agree : parts.AgreeAbove above joined other) (at_ : parts.entities[above]? = some entity) :
    (entity.identifierCell
        (sourceAt (parts.plan.statement.sources database parts.plan.parameters) above)
        (joined.getD above [])).order
      (entity.identifierCell
        (sourceAt (parts.plan.statement.sources database parts.plan.parameters) above)
        (other.getD above [])) ≠ .gt := by
  intro larger
  rw [@Std.OrientedCmp.eq_swap _ Cell.order, Ordering.swap_eq_gt] at larger
  -- With the rows of the other one from there on it would be of the kind and come before itself.
  obtain ⟨grafted, inside, taken, smaller⟩ :=
    exists_smaller first.member otherMember agree at_ larger
  exact first.least grafted inside (taken source below ▸ chosen) smaller

end Joinery
