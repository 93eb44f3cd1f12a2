import Joinery.Database.Resolution
import Joinery.Proofs.Outcome

/-! A statement that passed its check names nothing that is not there. -/

namespace Joinery

/-- A list passes a check exactly when each of its items does. -/
theorem checkAll_ok {α : Type} {check : α → Except DatabaseFault Unit} {items : List α} :
    checkAll check items = .ok () ↔ ∀ item ∈ items, check item = .ok () := by
  -- The first fault ends the check of the whole list.
  induction items with
  | nil => simp [checkAll]
  | cons first rest ih =>
    rw [checkAll, bind_eq_ok, List.forall_mem_cons, ← ih]
    exact ⟨fun ⟨_, head, tail⟩ => ⟨head, tail⟩, fun ⟨head, tail⟩ => ⟨(), head, tail⟩⟩

/-- A demand is met exactly when what it demands holds. -/
theorem demand_ok {holds : Bool} {fault : DatabaseFault} :
    demand holds fault = .ok () ↔ holds = true := by
  -- There is no other way to succeed.
  cases holds <;> simp [demand]

/-- Checking something of each item is checking the list of it. -/
theorem checkAll_map {α β : Type} (check : β → Except DatabaseFault Unit) (part : α → β)
    (items : List α) :
    checkAll check (items.map part) = checkAll (fun item => check (part item)) items := by
  -- The items are checked in the same order.
  induction items with
  | nil => rfl
  | cons first rest ih => rw [List.map_cons, checkAll, checkAll, ih]

/-- A join passes its check exactly when its keys and the columns of its conditions are found. -/
theorem checkJoin_ok {sources : List Relation} {join : Join} {source : Nat} :
    checkJoin sources (join, source) = .ok () ↔
      (sourceAt sources source).hasColumn (readBack join.key) = true ∧
      (sourceAt sources join.parent.source).hasColumn (readBack join.parent.column) = true ∧
      ∀ predicate ∈ join.conditions,
        (sourceAt sources source).hasColumn (readBack predicate.column) = true := by
  -- The three demands follow one another, each for one part of the join.
  constructor
  · intro checked
    obtain ⟨_, key, rest⟩ := bind_eq_ok.mp checked
    obtain ⟨_, parent, conditions⟩ := bind_eq_ok.mp rest
    exact ⟨demand_ok.mp key, demand_ok.mp parent,
      fun predicate member => demand_ok.mp (checkAll_ok.mp conditions predicate member)⟩
  · rintro ⟨key, parent, conditions⟩
    refine bind_eq_ok.mpr ⟨(), demand_ok.mpr key, bind_eq_ok.mpr ⟨(), demand_ok.mpr parent, ?_⟩⟩
    exact checkAll_ok.mpr fun predicate member => demand_ok.mpr (conditions predicate member)

/-- An order that passed its check is read into the terms of its ranking. -/
theorem Join.readOrder_of_checkOrder {join : Join} {ranking : Ranking}
    (ranked : join.ranking = some ranking) (checked : join.checkOrder = .ok ()) :
    readOrder ranking.order = .ok ranking.terms := by
  -- The terms are what reading gives, which the check found to succeed.
  simp only [Join.checkOrder, ranked] at checked
  obtain ⟨terms, read, _⟩ := map_eq_ok.mp checked
  rw [Ranking.terms, mapError_eq_ok.mp read]
  rfl

/-- A statement passes its check exactly when everything that it names is found. -/
theorem Statement.check_ok_iff {statement : Statement} {database : Database}
    {parameters : List Parameter} :
    let sources := statement.sources database parameters
    statement.check database parameters = .ok () ↔
      (∀ join ∈ statement.joins, join.checkOrder = .ok ()) ∧
      (∀ table ∈ statement.table :: statement.joins.map (·.table),
        checkTable database table = .ok ()) ∧
      (∀ join ∈ statement.joins, join.checkRanking database = .ok ()) ∧
      (∀ selected ∈ statement.columns, checkColumn sources selected.ref = .ok ()) ∧
      (∀ predicate ∈ statement.conditions, checkColumn sources ⟨0, predicate.column⟩ = .ok ()) ∧
      (∀ numbered ∈ statement.joins.zipIdx 1, checkJoin sources numbered = .ok ()) ∧
      (∀ ref ∈ statement.order, checkColumn sources ref = .ok ()) ∧
      fitsInt64 statement.cap = true := by
  -- The checks follow one another, and the first fault ends them.
  constructor
  · intro checked
    obtain ⟨_, orders, checked⟩ := bind_eq_ok.mp checked
    obtain ⟨_, tables, checked⟩ := bind_eq_ok.mp checked
    obtain ⟨_, rankings, checked⟩ := bind_eq_ok.mp checked
    obtain ⟨_, columns, checked⟩ := bind_eq_ok.mp checked
    obtain ⟨_, conditions, checked⟩ := bind_eq_ok.mp checked
    obtain ⟨_, joins, checked⟩ := bind_eq_ok.mp checked
    obtain ⟨_, order, checked⟩ := bind_eq_ok.mp checked
    exact ⟨checkAll_ok.mp orders, checkAll_ok.mp tables, checkAll_ok.mp rankings,
      checkAll_ok.mp columns, checkAll_ok.mp conditions, checkAll_ok.mp joins,
      checkAll_ok.mp order, demand_ok.mp checked⟩
  · -- Demands that are all met are met in their order.
    rintro ⟨orders, tables, rankings, columns, conditions, joins, order, cap⟩
    refine bind_eq_ok.mpr ⟨(), checkAll_ok.mpr orders, bind_eq_ok.mpr ⟨(), checkAll_ok.mpr tables, ?_⟩⟩
    refine bind_eq_ok.mpr ⟨(), checkAll_ok.mpr rankings, ?_⟩
    refine bind_eq_ok.mpr ⟨(), checkAll_ok.mpr columns, ?_⟩
    refine bind_eq_ok.mpr ⟨(), checkAll_ok.mpr conditions, ?_⟩
    refine bind_eq_ok.mpr ⟨(), checkAll_ok.mpr joins, ?_⟩
    exact bind_eq_ok.mpr ⟨(), checkAll_ok.mpr order, demand_ok.mpr cap⟩

/-- A join names nothing outside its sources that another one does not name. -/
structure Join.NamesNoMore (database : Database) (join other : Join) : Prop where
  /-- They have one table. -/
  table : join.table = other.table
  /-- Its order can be read where that of the other one can. -/
  order : other.checkOrder = .ok () → join.checkOrder = .ok ()
  /-- The columns inside its ranking are found where those of the other one are. -/
  ranking : other.checkRanking database = .ok () → join.checkRanking database = .ok ()

/-- What a statement names outside its sources is found when its joins name no more than those of another one. -/
theorem Statement.found_of_partners {statement other : Statement} {database : Database}
    {parameters : List Parameter} (table : other.table = statement.table)
    (partner : ∀ paired ∈ other.joins, ∃ join ∈ statement.joins, paired.NamesNoMore database join)
    (checked : statement.check database parameters = .ok ()) :
    (∀ join ∈ other.joins, join.checkOrder = .ok ()) ∧
      (∀ table ∈ other.table :: other.joins.map (·.table), checkTable database table = .ok ()) ∧
      ∀ join ∈ other.joins, join.checkRanking database = .ok () := by
  obtain ⟨orders, tables, rankings, _⟩ := check_ok_iff.mp checked
  -- Each join of the other statement passes as its partner does.
  refine ⟨fun paired member => ?_, fun named member => tables named ?_, fun paired member => ?_⟩
  · obtain ⟨join, inside, no_more⟩ := partner paired member
    exact no_more.order (orders join inside)
  · rcases List.mem_cons.mp member with rfl | among
    · exact List.mem_cons.mpr (.inl table)
    · obtain ⟨paired, joined, rfl⟩ := List.mem_map.mp among
      obtain ⟨join, inside, no_more⟩ := partner paired joined
      exact List.mem_cons_of_mem _ (List.mem_map.mpr ⟨join, inside, no_more.table.symm⟩)
  · obtain ⟨join, inside, no_more⟩ := partner paired member
    exact no_more.ranking (rankings join inside)

/-- What a statement that passed its check can rely on. -/
structure Statement.Resolved (statement : Statement) (database : Database)
    (parameters : List Parameter) : Prop where
  /-- The written orders can be read. -/
  orders : ∀ join ∈ statement.joins, join.checkOrder = .ok ()
  /-- The columns inside rankings are found. -/
  rankings : ∀ join ∈ statement.joins, join.checkRanking database = .ok ()
  /-- The returned columns are found. -/
  columns : ∀ selected ∈ statement.columns, (sourceAt (statement.sources database parameters)
    selected.ref.source).hasColumn (readBack selected.ref.column) = true
  /-- The keys of joins are found. -/
  keys : ∀ (i : Nat) (join : Join), statement.joins[i]? = some join →
    (sourceAt (statement.sources database parameters) (i + 1)).hasColumn (readBack join.key) = true
  /-- The columns that the keys have to equal are found. -/
  parents : ∀ join ∈ statement.joins, (sourceAt (statement.sources database parameters)
    join.parent.source).hasColumn (readBack join.parent.column) = true

/-- A statement whose check succeeds can rely on all of this. -/
theorem Statement.resolved_of_check {statement : Statement} {database : Database}
    {parameters : List Parameter} (checked : statement.check database parameters = .ok ()) :
    statement.Resolved database parameters := by
  obtain ⟨orders, _, rankings, columns, _, joins, _, _⟩ := check_ok_iff.mp checked
  -- Each join was checked at the source after its place.
  have keys : ∀ (i : Nat) (join : Join), statement.joins[i]? = some join →
      checkJoin (statement.sources database parameters) (join, i + 1) = .ok () := by
    intro i join at_
    exact joins _ (List.mem_zipIdx_iff_le_and_getElem?_sub.mpr ⟨by omega, by simpa using at_⟩)
  refine ⟨orders, rankings, fun selected member => demand_ok.mp (columns selected member),
    fun i join at_ => (checkJoin_ok.mp (keys i join at_)).1, fun join member => ?_⟩
  obtain ⟨i, at_⟩ := List.mem_iff_getElem?.mp member
  exact (checkJoin_ok.mp (keys i join at_)).2.1

end Joinery
