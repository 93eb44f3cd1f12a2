import Joinery.Proofs.Customers.Seeding

/-!
Seeding comes to its end where the calendar has all dates of the sample data.

Sample customers have identifiers that differ, and there are more numbers than rows; so no key is refused.
-/

namespace Joinery

/-- A database has a table with room for some more numbered rows. -/
def Database.HasRoom (database : Database) (name : String) (more : Nat) : Prop :=
  ∃ relation, database.table? name = some relation ∧ relation.rows.length + more ≤ 2 ^ 62

variable {before after : Database} {definition : TableDefinition} {relation : Relation}
  {host : Host} {key start : Cell} {image : Cell → Row} {session : Session} {name : String}
  {added : String → List Row} {m : Moment} {row : SampleRow}

/-- Rows that are gained take their room, and leave the rest. -/
theorem Database.HasRoom.of_gains {more rest : Nat} (room : before.HasRoom name more)
    (gains : before.Gains after added) (taken : (added name).length + rest ≤ more) :
    after.HasRoom name rest := by
  obtain ⟨former, found, enough⟩ := room
  -- The table is still there, with its former rows and the added ones.
  have columns := gains.columns name
  rw [found, Option.map_some, Option.map_eq_some_iff] at columns
  obtain ⟨relation, looked, -⟩ := columns
  have rows := (gains.rows name).length_eq
  rw [Database.rows, Database.rows, found, looked, List.length_append] at rows
  exact ⟨relation, looked, by simp only [Option.map_some, Option.getD_some] at rows; omega⟩

/-- The keys of added rows come beside the former keys. -/
theorem Database.Gains.keys (gains : before.Gains after added) (definition : TableDefinition) :
    (after.keys definition).Perm
      (before.keys definition ++ (added definition.name).map (·.headD .null)) := by
  -- The key of a row is its first cell, before rows are added and after.
  rw [Database.keys, Database.keys, ← List.map_append]
  exact (gains.rows definition.name).map _

/-- The keys of a table of the domain are found by the name of their column, too. -/
theorem Database.IsCustomer.keys_eq (known : before.IsCustomer) (member : definition ∈ customerTables)
    (found : before.table? definition.name = some relation) :
    relation.rows.map (relation.cell definition.key) = before.keys definition := by
  -- The column of the key comes first in a table of the domain, so both are the first cell of a row.
  rw [funext ((known definition member relation found).cell_eq_head (keyFirst_of_mem member)),
    Database.keys, Database.rows, found]
  rfl

/-- The row that a table of the domain makes begins with its key. -/
theorem TableDefinition.Makes.headD {new : NewRow} (makes : definition.Makes host.clock new start image)
    (member : definition ∈ customerTables) (key : Cell) : (image key).headD .null = key := by
  -- The key was given to the row under the name of the first column.
  obtain ⟨given, _, _, imaged⟩ := makes
  rw [← (imaged key).1]
  exact headD_rowOf (keyFirst_of_mem member) given key

namespace SessionWork

/-- A sample row is stored under a key that no row of its table has. -/
theorem exists_insertSample (known : session.current.IsCustomer) (member : definition ∈ customerTables)
    (found : session.current.table? definition.name = some relation)
    (makes : SampleRow.Makes definition host.clock row (start, image))
    (keyed : definition.keyCell host.numbering (session.current.keys definition) start = .ok key)
    (given : key.isNull = false)
    (new : ∀ other ∈ session.current.keys definition, key.same other = false) :
    ∃ later, (insertSample definition host row).outcome session = (.ok key, later) ∧
      later.current.IsCustomer ∧
      session.current.Gains later.current (addedTo definition.name [image key]) := by
  obtain ⟨row, rfl, made⟩ := makes
  obtain ⟨cells, same, started, imaged⟩ := made
  -- Keys are cells of a named column for the database, and first cells here.
  have keys := known.keys_eq member found
  have apart : ∀ other ∈ relation.rows, key.same (relation.cell definition.key other) = false :=
    fun other stored => new _ (keys ▸ List.mem_map_of_mem stored)
  obtain ⟨after, inserted⟩ := Database.exists_insert (known definition member relation found) found same
    (by rw [keys, started]; exact keyed) ((imaged key).2 given) apart
  obtain ⟨still, -, gained⟩ := known.insert member ⟨cells, same, started, imaged⟩ inserted
  exact ⟨_, outcome_insertSample_eq_ok.mpr ⟨row, after, rfl, inserted, rfl⟩, still, gained⟩

/-- A sample row is stored under a number while there is room. -/
theorem exists_insertSample_numbered {more : Nat} (known : session.current.IsCustomer)
    (member : definition ∈ customerTables) (numbered : definition.numbered = true)
    (room : session.current.HasRoom definition.name (more + 1))
    (makes : SampleRow.Makes definition host.clock row (.null, image)) :
    ∃ (n : Int) (later : Session),
      (insertSample definition host row).outcome session = (.ok (.integer n), later) ∧
      fitsInt64 n = true ∧ later.current.IsCustomer ∧
      session.current.Gains later.current (addedTo definition.name [image (.integer n)]) := by
  obtain ⟨relation, found, enough⟩ := room
  have keys := known.keys_eq member found
  have few : (session.current.keys definition).length < 2 ^ 62 := by
    rw [← keys, List.length_map]
    omega
  obtain ⟨n, next⟩ := host.numbering.exists_next definition.name few
  have keyed : definition.keyCell host.numbering (session.current.keys definition) .null = .ok (.integer n) := by
    rw [TableDefinition.keyCell, if_pos numbered, next]
  obtain ⟨fits, fresh⟩ := Numbering.next?_eq_some next
  -- All keys are numbers here, so a number that is none of them is like none of them.
  have new : ∀ other ∈ session.current.keys definition, Cell.same (.integer n) other = false := by
    intro other among
    obtain ⟨stored, inside, rfl⟩ := List.mem_map.mp (keys ▸ among)
    obtain ⟨number, held⟩ := (known definition member relation found).numbers numbered stored inside
    rw [held] at among ⊢
    rw [Bool.eq_false_iff]
    exact fun same => fresh (Cell.same_integer same ▸ among)
  obtain ⟨later, stored, still, gained⟩ := exists_insertSample known member found makes keyed rfl new
  exact ⟨n, later, stored, fits, still, gained⟩

/-- Sample rows are stored under numbers while there is room. -/
theorem exists_insertSamples_numbered {rows : List SampleRow} {images : List (Cell → Row)}
    (member : definition ∈ customerTables) (numbered : definition.numbered = true)
    (makes : List.Forall₂ (fun row image => SampleRow.Makes definition host.clock row (.null, image))
      rows images)
    (known : session.current.IsCustomer)
    (room : session.current.HasRoom definition.name rows.length) :
    ∃ later stored, (insertSamples definition host rows).outcome session = (.ok (), later) ∧
      later.current.IsCustomer ∧
      session.current.Gains later.current (addedTo definition.name stored) := by
  induction makes generalizing session with
  | nil => exact ⟨session, [], rfl, known, (Database.Gains.refl _).congr fun _ => by simp [addedTo]⟩
  | @cons row image rows images first _ ih =>
    obtain ⟨n, between, stored, -, still, gained⟩ :=
      exists_insertSample_numbered known member numbered room first
    -- The first row takes one place, and the others have room in the rest.
    obtain ⟨later, others, rest, still, gains⟩ :=
      ih still (room.of_gains gained (by simp [addedTo_self]; omega))
    refine ⟨later, image (.integer n) :: others,
      outcome_bind_eq_ok.mpr ⟨_, between, stored, rest⟩, still, (gained.trans gains).congr fun name => ?_⟩
    exact .of_eq (addedTo_append _ _ _ _).symm

/-- Sample rows are stored under identifiers that differ from each other and from those of the former rows. -/
theorem exists_insertSamples_named {rows : List SampleRow} {made : List (String × (Cell → Row))}
    (member : definition ∈ customerTables) (named : definition.numbered = false)
    (makes : List.Forall₂ (fun row m => SampleRow.Makes definition host.clock row (.text m.1, m.2))
      rows made)
    (known : session.current.IsCustomer)
    (found : (session.current.table? definition.name).isSome = true)
    (distinct : (made.map (·.1)).Nodup)
    (new : ∀ id ∈ made.map (·.1), ∀ other ∈ session.current.keys definition,
      Cell.same (.text id) other = false) :
    ∃ later stored, (insertSamples definition host rows).outcome session = (.ok (), later) ∧
      later.current.IsCustomer ∧
      session.current.Gains later.current (addedTo definition.name stored) := by
  -- The rows are stored one by one, and what they need is said of the session as it has become.
  induction makes generalizing session with
  | nil => exact ⟨session, [], rfl, known, (Database.Gains.refl _).congr fun _ => by simp [addedTo]⟩
  | @cons row m rows made first _ ih =>
    obtain ⟨relation, looked⟩ := Option.isSome_iff_exists.mp found
    have keyed : definition.keyCell host.numbering (session.current.keys definition) (.text m.1) = .ok (.text m.1) := by
      simp [TableDefinition.keyCell, named]
    obtain ⟨own, later_⟩ := List.forall_mem_cons.mp new
    obtain ⟨unlike, distinct⟩ := List.nodup_cons.mp distinct
    obtain ⟨between, stored, still, gained⟩ :=
      exists_insertSample known member looked first keyed rfl own
    have found : (between.current.table? definition.name).isSome = true := by
      have columns := congrArg Option.isSome (gained.columns definition.name)
      rw [Option.isSome_map, Option.isSome_map] at columns
      exact columns.trans found
    obtain ⟨_, _, makes⟩ := first
    have heads : (m.2 (.text m.1)).headD .null = .text m.1 := makes.headD member _
    -- The first identifier is a key now, too; the others differ from it as from the former ones.
    have apart : ∀ id ∈ made.map (·.1), ∀ other ∈ between.current.keys definition,
        Cell.same (.text id) other = false := by
      intro id later other among
      rw [(gained.keys definition).mem_iff, addedTo_self, List.map_singleton, heads,
        List.mem_append, List.mem_singleton] at among
      rcases among with former | rfl
      · exact later_ id later other former
      · rw [Bool.eq_false_iff]
        intro same
        rw [Cell.same_text same] at later
        exact unlike later
    obtain ⟨later, others, rest, still, gains⟩ := ih still found distinct apart
    refine ⟨later, m.2 (.text m.1) :: others,
      outcome_bind_eq_ok.mpr ⟨_, between, stored, rest⟩, still, (gained.trans gains).congr fun name => ?_⟩
    exact .of_eq (addedTo_append _ _ _ _).symm

/-- A sample subscription is stored with its products while there is room and the calendar has its days. -/
theorem exists_insertSubscription {subscription : SampleSubscription} {more : Nat}
    (few : ∀ product ∈ subscription.products, fitsInt64 product.quantity = true)
    (known : session.current.IsCustomer)
    (room : session.current.HasRoom subscriptionTable.name (more + 1))
    (room' : session.current.HasRoom productTable.name subscription.products.length)
    (dated : m.time.HasDay subscription.firstDay ∧ m.time.HasDay subscription.lastDay) :
    ∃ later, (insertSubscription (.moment m) host subscription).outcome session = (.ok (), later) := by
  obtain ⟨number, between, stored, fits, still, gained⟩ :=
    exists_insertSample_numbered known (by simp [customerTables]) rfl room
      ((subscription.row_dated m host.clock).2 dated)
  -- The number of the subscription fits, so every product can hold it.
  have made : List.Forall₂ (fun row image => SampleRow.Makes productTable host.clock row (.null, image))
      (subscription.products.map fun product => .ok (product.row (.integer number)))
      (subscription.products.map fun product => product.stored (.integer number)) := by
    rw [List.forall₂_map_left_iff, List.forall₂_map_right_iff, List.forall₂_same]
    exact fun product member => ⟨_, rfl, product.makes fits (few product member)⟩
  have enough : between.current.HasRoom productTable.name
      (subscription.products.map fun product => (.ok (product.row (.integer number)) : SampleRow)).length :=
    room'.of_gains gained (by simp (disch := decide) [addedTo_other])
  obtain ⟨later, -, rest, -⟩ :=
    exists_insertSamples_numbered (by simp [customerTables]) rfl made still enough
  exact ⟨later, outcome_bind_eq_ok.mpr ⟨_, between, stored, rest⟩⟩

/-- Sample subscriptions are stored while there is room and the calendar has their days. -/
theorem exists_insertSubscriptions {subscriptions : List SampleSubscription}
    (few : ∀ subscription ∈ subscriptions, ∀ product ∈ subscription.products,
      fitsInt64 product.quantity = true)
    (known : session.current.IsCustomer)
    (room : session.current.HasRoom subscriptionTable.name subscriptions.length)
    (room' : session.current.HasRoom productTable.name
      (subscriptions.map (·.products.length)).sum)
    (dated : ∀ subscription ∈ subscriptions,
      m.time.HasDay subscription.firstDay ∧ m.time.HasDay subscription.lastDay) :
    ∃ later, (subscriptions.forM (insertSubscription (.moment m) host)).outcome session =
      (.ok (), later) := by
  induction subscriptions generalizing session with
  | nil => exact ⟨session, rfl⟩
  | cons subscription rest ih =>
    obtain ⟨few, others⟩ := List.forall_mem_cons.mp few
    obtain ⟨dated, later⟩ := List.forall_mem_cons.mp dated
    rw [List.map_cons, List.sum_cons] at room'
    -- The products of this subscription need a part of their room, and it is none of the others' part.
    obtain ⟨between, stored⟩ := exists_insertSubscription few known room
      (room'.of_gains (.refl _) (by simp)) dated
    obtain ⟨still, -, -, number, products, size, gained⟩ := insertSubscription_gains few known stored
    obtain ⟨after, done⟩ := ih others still
      (room.of_gains gained (by simp (disch := decide) [addedTo_self, addedTo_other]; omega))
      (room'.of_gains gained (by simp (disch := decide) [addedTo_self, addedTo_other, size]))
      later
    exact ⟨after, outcome_bind_eq_ok.mpr ⟨_, between, stored, done⟩⟩

/-- Every sample customer has its values where the calendar has their days. -/
theorem sampleCustomers_make (clock : LocalTime)
    (dated : ∀ customer ∈ sampleCustomers, m.time.HasDay (-(customer.age : Int))) :
    List.Forall₂ (fun row made => SampleRow.Makes customerTable clock row (.text made.1, made.2))
      (sampleCustomers.map (·.row (.moment m)))
      (sampleCustomers.map fun customer => (customer.id, customer.stored m.time.dayCell)) := by
  -- Each of them has its own day.
  rw [List.forall₂_map_left_iff, List.forall₂_map_right_iff, List.forall₂_same]
  exact fun customer member => (customer.row_dated m clock).2 (dated customer member)

/-- So has every sample interaction. -/
theorem sampleInteractions_make (clock : LocalTime)
    (dated : ∀ interaction ∈ sampleInteractions, m.time.HasDay (-(interaction.age : Int))) :
    List.Forall₂ (fun row image => SampleRow.Makes interactionTable clock row (.null, image))
      (sampleInteractions.map (·.row (.moment m)))
      (sampleInteractions.map fun interaction => interaction.stored m.time.dayCell) := by
  -- Each of them has its own day.
  rw [List.forall₂_map_left_iff, List.forall₂_map_right_iff, List.forall₂_same]
  exact fun interaction member => (interaction.row_dated m clock).2 (dated interaction member)

/-- All sample data is stored in a database without customers, where the calendar has its days. -/
theorem exists_insertSampleData (known : session.current.IsCustomer)
    (empty : session.current.rows customerTable.name = [])
    (room : ∀ definition ∈ customerTables, session.current.HasRoom definition.name 100)
    (dated : ∀ days ∈ sampleDays, m.time.HasDay days) :
    ∃ later, (insertSampleData (.moment m) host).outcome session = (.ok (), later) := by
  simp only [sampleDays, List.forall_mem_append, List.forall_mem_map, List.forall_mem_flatMap,
    List.forall_mem_cons] at dated
  obtain ⟨⟨dated, dated'⟩, dated''⟩ := dated
  have few : ∀ subscription ∈ sampleSubscriptions, ∀ product ∈ subscription.products,
      fitsInt64 product.quantity = true := by decide
  have none_ : session.current.keys customerTable = [] := by rw [Database.keys, empty, List.map_nil]
  obtain ⟨relation, found, -⟩ := room customerTable (by simp [customerTables])
  have distinct : (sampleCustomers.map (·.id)).Nodup := by decide
  -- Customers come first: there are none, so identifiers that differ are enough.
  obtain ⟨first, _, stored, still, gained⟩ := exists_insertSamples_named (by simp [customerTables]) rfl
    (sampleCustomers_make host.clock dated) known (by rw [found]; rfl) (by rwa [List.map_map]) (by simp [none_])
  -- The other tables have gained nothing yet.
  have room (definition : TableDefinition) (member : definition ∈ customerTables)
      (other : sameIdentifier customerTable.name definition.name = false) :
      first.current.HasRoom definition.name 100 :=
    (room definition member).of_gains gained (by rw [addedTo_other other]; decide)
  obtain ⟨second, _, stored', still, gained⟩ := exists_insertSamples_numbered
    (by simp [customerTables]) rfl (sampleInteractions_make host.clock dated') still
    ((room interactionTable (by simp [customerTables]) (by decide)).of_gains (.refl _)
      (by rw [List.length_map]; decide))
  obtain ⟨third, done⟩ := exists_insertSubscriptions few still
    ((room subscriptionTable (by simp [customerTables]) (by decide)).of_gains gained
      (by rw [addedTo_other (by decide)]; decide))
    ((room productTable (by simp [customerTables]) (by decide)).of_gains gained
      (by rw [addedTo_other (by decide)]; decide))
    (fun subscription member => ⟨(dated'' subscription member).1, (dated'' subscription member).2.1⟩)
  exact ⟨third, outcome_bind_eq_ok.mpr ⟨_, first, stored,
    outcome_bind_eq_ok.mpr ⟨_, second, stored', done⟩⟩⟩

end SessionWork

end Joinery
