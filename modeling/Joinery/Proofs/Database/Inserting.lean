import Joinery.Proofs.Database.Order
import Joinery.Database.Storage
import Joinery.Proofs.Outcome
import Mathlib.Data.List.Nodup

/-! A stored row comes beside the former rows of its table, under a key that none of them has. -/

namespace Joinery

/-- A relation that is as its definition says: keys tell its rows apart, and are numbers where rows are numbered. -/
structure TableDefinition.Holds (definition : TableDefinition) (relation : Relation) : Prop where
  /-- The columns are the defined ones. -/
  columns : relation.columns = definition.columns.map (·.column)
  /-- The keys of numbered rows are numbers. -/
  numbers : definition.numbered = true →
    ∀ row ∈ relation.rows, ∃ n, relation.cell definition.key row = .integer n
  /-- No two rows have one key. -/
  distinct : (relation.rows.map (relation.cell definition.key)).Nodup

/-- The key is the first column. -/
def TableDefinition.KeyFirst (definition : TableDefinition) : Prop :=
  definition.columns.head?.map (·.name) = some definition.key

instance (definition : TableDefinition) : Decidable definition.KeyFirst :=
  inferInstanceAs (Decidable (_ = _))

/-- The row that cells under names make in a defined table. -/
def TableDefinition.rowOf (definition : TableDefinition) (cells : Entries Cell) : Row :=
  definition.columns.map fun column => (cells.get? column.name).getD .null

/-- The rows that are added to a table, as a function of the name under which tables are looked up. -/
def addedTo (table : String) (rows : List Row) (name : String) : List Row :=
  if sameIdentifier table name then rows else []

/-- A database with more rows in some of its tables; the others are as they were. -/
structure Database.Gains (before after : Database) (added : String → List Row) : Prop where
  /-- Tables to which nothing is added stay as they are. -/
  others : ∀ name, added name = [] → after.table? name = before.table? name
  /-- Columns stay as they are. -/
  columns : ∀ name, (after.table? name).map (·.columns) = (before.table? name).map (·.columns)
  /-- The former rows are there, and the added ones. -/
  rows : ∀ name, (after.rows name).Perm (before.rows name ++ added name)

variable {database before between after : Database} {definition : TableDefinition} {relation : Relation}
  {host : Host} {row : NewRow} {key : Cell} {keys : List Cell} {cells given : Entries Cell}
  {name other : String} {added more : String → List Row}

/-- Nothing is gained when nothing happens. -/
theorem Database.Gains.refl (database : Database) : database.Gains database fun _ => [] :=
  ⟨fun _ _ => rfl, fun _ => rfl, fun _ => by rw [List.append_nil]⟩

/-- What is gained one after the other is gained together. -/
theorem Database.Gains.trans (first : before.Gains between added) (second : between.Gains after more) :
    before.Gains after fun name => added name ++ more name := by
  -- A table that gains nothing gains nothing either time, and any other has the rows of both behind its own.
  refine ⟨fun name none => ?_, fun name => (second.columns name).trans (first.columns name),
    fun name => ?_⟩
  · obtain ⟨noneFirst, noneSecond⟩ := List.append_eq_nil_iff.mp none
    exact (second.others name noneSecond).trans (first.others name noneFirst)
  · rw [← List.append_assoc]
    exact (second.rows name).trans ((first.rows name).append_right _)

/-- The order in which rows are gained does not matter. -/
theorem Database.Gains.congr (gains : before.Gains after added)
    (same : ∀ name, (added name).Perm (more name)) : before.Gains after more := by
  -- Where nothing is added in one order, nothing is in the other.
  refine ⟨fun name none => gains.others name ?_, gains.columns, fun name =>
    (gains.rows name).trans ((same name).append_left _)⟩
  exact (none ▸ same name).eq_nil

/-- A relation that is put in place of a table is found there, and the other tables as they were. -/
theorem Database.table?_put (database : Database) (name other : String) (relation : Relation) :
    (database.put name relation).table? other =
      if sameIdentifier name other then (database.table? other).map fun _ => relation
      else database.table? other := by
  rw [table?, table?, put, List.find?_map]
  simp only [Function.comp_def, Table.put, Option.map_map]
  cases found : database.tables.find? (sameIdentifier ·.name other) with
  | none => simp
  | some table =>
    -- The table that was looked up has the one name when it has the other.
    have looked := List.find?_some found
    have same : sameIdentifier table.name name = sameIdentifier name other := by
      rw [Bool.eq_iff_iff, sameIdentifier_iff, sameIdentifier_iff, sameIdentifier_iff.mp looked, eq_comm]
    simp only [Option.map_some, same]
    split <;> rfl

/-- A row is stored where its columns exist, its cells can be made, and its key is new. -/
theorem Database.insert_eq_ok_iff :
    database.insert definition host row = .ok (after, key) ↔ ∃ relation given,
      database.table? definition.name = some relation ∧
      definition.checkColumns relation = .ok () ∧
      definition.columns.mapM (·.cell host.clock row) = .ok given ∧
      definition.keyCell host.numbering (relation.rows.map (relation.cell definition.key))
        ((Entries.get? given definition.key).getD .null) = .ok key ∧
      definition.check (relation.rows.map (relation.cell definition.key)) key
        (Entries.insert given definition.key key) = .ok () ∧
      after = database.put definition.name (definition.store relation
        (relation.rowOf (Entries.insert given definition.key key)) (relation.length_rowOf _)) := by
  -- The table is looked up once, and four checks follow one another.
  simp only [insert]
  split
  · rename_i relation found
    constructor
    · intro inserted
      -- Each step has to succeed, and the last one shows the database.
      obtain ⟨_, columns, inserted⟩ := bind_eq_ok.mp inserted
      obtain ⟨given, made, inserted⟩ := bind_eq_ok.mp inserted
      obtain ⟨key, keyed, inserted⟩ := bind_eq_ok.mp inserted
      obtain ⟨_, checked, inserted⟩ := bind_eq_ok.mp inserted
      cases inserted
      exact ⟨relation, given, found, columns, made, keyed, checked, rfl⟩
    · rintro ⟨_, given, same, columns, made, keyed, checked, rfl⟩
      cases found.symm.trans same
      exact bind_eq_ok.mpr ⟨_, columns, bind_eq_ok.mpr ⟨_, made, bind_eq_ok.mpr ⟨_, keyed,
        bind_eq_ok.mpr ⟨_, checked, rfl⟩⟩⟩⟩
  · rename_i none
    refine iff_of_false (by rintro ⟨⟩) ?_
    rintro ⟨relation, _, found, _⟩
    exact none relation found

/-- The first cell of a row is its key. -/
theorem TableDefinition.Holds.cell_eq_head (holds : definition.Holds relation)
    (first : definition.KeyFirst) (row : Row) : relation.cell definition.key row = row.headD .null := by
  -- The first column of the relation is the first one of the definition, which is the key.
  rw [KeyFirst] at first
  cases defined : definition.columns with
  | nil => rw [defined] at first; contradiction
  | cons column rest =>
    rw [defined, List.head?_cons, Option.map_some, Option.some.injEq] at first
    have found : sameIdentifier column.name definition.key = true :=
      sameIdentifier_iff.mpr (by rw [first])
    have position : relation.position? definition.key = some 0 := by
      rw [Relation.position?, holds.columns, defined, List.map_cons, List.findIdx?_cons]
      simp only [ColumnDefinition.column, found, if_true]
    rw [Relation.cell, position]
    cases row <;> rfl

/-- A new row begins with its key. -/
theorem TableDefinition.headD_rowOf (first : definition.KeyFirst) (given : Entries Cell) (key : Cell) :
    (definition.rowOf (Entries.insert given definition.key key)).headD .null = key := by
  -- The row is read off the columns in their order, and the key was set under the first of them.
  rw [KeyFirst] at first
  rw [rowOf]
  cases defined : definition.columns with
  | nil => rw [defined] at first; contradiction
  | cons column rest =>
    rw [defined, List.head?_cons, Option.map_some, Option.some.injEq] at first
    simp [first, Entries.get?_insert]

/-- No row has the key that a new row was given. -/
theorem TableDefinition.notMem_of_check (checked : definition.check keys key cells = .ok ()) :
    key ∉ keys := by
  obtain ⟨_, _, fresh⟩ := bind_eq_ok.mp checked
  intro member
  -- A key is like itself, and would be refused.
  have same : keys.any key.same = true :=
    List.any_eq_true.mpr ⟨key, member, beq_iff_eq.mpr (@Std.ReflCmp.compare_self _ Cell.order _ _)⟩
  rw [same] at fresh
  contradiction

/-- The key of a row that is numbered is a number. -/
theorem TableDefinition.exists_number {cell : Cell} (numbered : definition.numbered = true)
    (keyed : definition.keyCell host.numbering keys cell = .ok key) : ∃ n, key = .integer n := by
  -- A given number is taken, and a missing one is drawn; nothing else is a key of such a table.
  simp only [keyCell, numbered, if_true] at keyed
  cases cell with
  | null =>
    dsimp only at keyed
    split at keyed
    · cases keyed
      exact ⟨_, rfl⟩
    · contradiction
  | integer n =>
    cases keyed
    exact ⟨n, rfl⟩
  | real | text => contradiction

/-- A relation that is as defined is so with a new row under a new key. -/
theorem TableDefinition.Holds.store {row : Row} (holds : definition.Holds relation)
    (full : row.length = relation.columns.length) (keyed : relation.cell definition.key row = key)
    (number : definition.numbered = true → ∃ n, key = .integer n)
    (new : key ∉ relation.rows.map (relation.cell definition.key)) :
    definition.Holds (definition.store relation row full) := by
  -- The rows are the former ones and the new one, in whatever order they are kept.
  have rows := definition.perm_place relation row
  refine ⟨holds.columns, fun numbered other member => ?_, ?_⟩
  · rcases List.mem_append.mp (rows.mem_iff.mp member) with former | here
    · exact holds.numbers numbered other former
    · rw [List.mem_singleton.mp here]
      exact keyed ▸ number numbered
  · have keys := rows.map (relation.cell definition.key)
    rw [List.map_append, List.map_singleton, keyed] at keys
    exact (keys.nodup_iff).mpr (List.nodup_append.mpr ⟨holds.distinct, List.nodup_singleton key,
      fun other former last here same => new (List.mem_singleton.mp here ▸ same ▸ former)⟩)

/-- A row that is stored in a table is gained by it. -/
theorem Database.gains_store {row : Row} (found : before.table? definition.name = some relation)
    (full : row.length = relation.columns.length) :
    before.Gains (before.put definition.name (definition.store relation row full))
      (addedTo definition.name [row]) := by
  have lookup (other : String) :=
    before.table?_put definition.name other (definition.store relation row full)
  -- The name that is looked up is a spelling of that of the table, or it is not.
  have spelled (other : String) (same : sameIdentifier definition.name other = true) :
      before.table? other = some relation := by
    rw [← found, Database.table?, Database.table?]
    simp only [sameIdentifier, eq_of_beq same]
  refine ⟨fun other none => ?_, fun other => ?_, fun other => ?_⟩
  · rw [lookup, if_neg]
    intro same
    rw [addedTo, if_pos same] at none
    contradiction
  · -- A table of another name is the one it was.
    rw [lookup]
    split
    · rename_i same
      rw [spelled other same]
      rfl
    · rfl
  · rw [Database.rows, Database.rows, lookup, addedTo]
    split
    · rename_i same
      rw [spelled other same]
      exact definition.perm_place relation row
    · rw [List.append_nil]

/-- A table that is as defined stays so when a row is stored in it, and gains that row. -/
theorem TableDefinition.Holds.insert (first : definition.KeyFirst)
    (holds : ∀ relation, before.table? definition.name = some relation → definition.Holds relation)
    (inserted : before.insert definition host row = .ok (after, key)) :
    ∃ given keys, definition.columns.mapM (·.cell host.clock row) = .ok given ∧
      definition.keyCell host.numbering keys ((Entries.get? given definition.key).getD .null) = .ok key ∧
      (∀ relation, after.table? definition.name = some relation → definition.Holds relation) ∧
      before.Gains after
        (addedTo definition.name [definition.rowOf (Entries.insert given definition.key key)]) := by
  obtain ⟨relation, given, found, _, made, keyed, checked, rfl⟩ := Database.insert_eq_ok_iff.mp inserted
  have own := holds relation found
  -- The columns of the relation are the defined ones, so both make one row of the cells.
  have row : relation.rowOf (Entries.insert given definition.key key) =
      definition.rowOf (Entries.insert given definition.key key) := by
    rw [Relation.rowOf, own.columns, List.map_map]
    rfl
  have cell := (own.cell_eq_head first _).trans (headD_rowOf first given key)
  rw [← row] at cell
  refine ⟨given, _, made, keyed, fun later looked => ?_,
    row ▸ Database.gains_store found (relation.length_rowOf _)⟩
  rw [Database.table?_put, if_pos (sameIdentifier_iff.mpr rfl), found, Option.map_some] at looked
  cases looked
  exact own.store _ cell (fun numbered => exists_number numbered keyed) (notMem_of_check checked)

/-- A row without a key of its own gets a number that fits, and that no row has. -/
theorem TableDefinition.keyCell_null (numbered : definition.numbered = true)
    (keyed : definition.keyCell host.numbering keys .null = .ok key) :
    ∃ n, key = .integer n ∧ fitsInt64 n = true ∧ .integer n ∉ keys := by
  -- The number that is drawn is one that fits and is not used.
  rw [keyCell, if_pos numbered] at keyed
  split at keyed
  · rename_i n found
    cases keyed
    exact ⟨n, rfl, Numbering.next?_eq_some found⟩
  · contradiction

/-- Whole numbers of one place are equal. -/
theorem Cell.same_integer {m n : Int} (same : Cell.same (.integer m) (.integer n) = true) : m = n := by
  -- Comparing whole numbers is comparing them under a common scale of one.
  have order : compareScaled m 0 n 0 = .eq := eq_of_beq same
  rw [compareScaled, compare_mul_right _ _ (Int.natCast_pos.mpr (powTwo_pos _))] at order
  exact Std.LawfulEqCmp.eq_of_compare order

/-- Texts of one place are equal. -/
theorem Cell.same_text {s t : String} (same : Cell.same (.text s) (.text t) = true) : s = t := by
  have order : compare s t = .eq := eq_of_beq same
  exact Std.LawfulEqCmp.eq_of_compare order

/-- A row is stored in a table that is as defined, when its cells can be made, and its key is new. -/
theorem Database.exists_insert (holds : definition.Holds relation)
    (found : database.table? definition.name = some relation)
    (made : definition.columns.mapM (·.cell host.clock row) = .ok given)
    (keyed : definition.keyCell host.numbering (relation.rows.map (relation.cell definition.key))
      ((Entries.get? given definition.key).getD .null) = .ok key)
    (filled : definition.checkRequired (Entries.insert given definition.key key) = .ok ())
    (new : ∀ other ∈ relation.rows, key.same (relation.cell definition.key other) = false) :
    ∃ after, database.insert definition host row = .ok (after, key) := by
  refine ⟨_, Database.insert_eq_ok_iff.mpr ⟨relation, given, found, ?_, made, keyed, ?_, rfl⟩⟩
  · -- Every column of the definition is one of the relation.
    have all : definition.columns.find? (fun column => !relation.hasColumn column.name) = none := by
      rw [List.find?_eq_none]
      intro column member
      rw [Relation.hasColumn, Relation.position?, holds.columns, Bool.not_eq_true', Bool.not_eq_false,
        List.findIdx?_isSome, List.any_eq_true]
      exact ⟨_, List.mem_map_of_mem member, sameIdentifier_iff.mpr rfl⟩
    rw [TableDefinition.checkColumns, all]
  · -- No former key is the new one.
    have apart : (relation.rows.map (relation.cell definition.key)).any key.same = false := by
      rw [List.any_map, List.any_eq_false]
      exact fun other member => by simp [new other member]
    rw [TableDefinition.check, filled, apart]
    rfl

end Joinery
