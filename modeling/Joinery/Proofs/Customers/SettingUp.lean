import Joinery.Proofs.Customers.Completing

/-! A database is seeded entirely or not at all, and setting it up again changes nothing. -/

namespace Joinery

namespace SessionWork

/-- Nothing is committed by storing a sample row. -/
theorem Uncommitted.insertSample (definition : TableDefinition) (host : Host) (row : SampleRow) :
    Uncommitted (SessionWork.insertSample definition host row) := by
  -- Values that cannot be given end the work before anything is stored.
  cases row with
  | error misuse => exact .throw _
  | ok row => exact .insert definition host row

/-- Nothing is committed by storing sample rows. -/
theorem Uncommitted.insertSamples (definition : TableDefinition) (host : Host)
    (rows : List SampleRow) : Uncommitted (SessionWork.insertSamples definition host rows) := by
  -- One row after the other is stored, and none is committed.
  induction rows with
  | nil => exact .pure _
  | cons row rest ih => exact .bind (.insertSample definition host row) fun _ => ih

/-- Nothing is committed by storing all sample data. -/
theorem Uncommitted.insertSampleData (now : Value) (host : Host) :
    Uncommitted (SessionWork.insertSampleData now host) :=
  -- Two loops of rows, and a loop of subscriptions with a loop of products in each.
  .bind (.insertSamples _ _ _) fun _ => .bind (.insertSamples _ _ _) fun _ => .forM fun _ _ =>
    .bind (.insertSample _ _ _) fun _ => .insertSamples _ _ _

end SessionWork

variable {database : Database} {host : Host} {now : Value} {m : Moment}

/-- The time that the dates of the sample data are counted from. -/
def referenceTime (now : Value) (host : Host) : Value :=
  if now.truthy then now else .moment ⟨host.clock, none⟩

/-- Seeding shows either the database as it was, or all that a session has stored. -/
theorem Database.seed_eq (database : Database) (now : Value) (host : Host) :
    database.seed now host =
      match database.count customerTable.name with
      | .error fault => (database, .error fault)
      | .ok count =>
        if count ≠ 0 then (database, .ok false)
        else
          match (SessionWork.insertSampleData (referenceTime now host) host).outcome ⟨database, database⟩ with
          | (.error fault, _) => (database, .error fault)
          | (.ok _, session) => (session.current, .ok true) := by
  -- The count comes first, and only a count of zero leads to the insertion.
  rw [seed, inSession, SessionWork.outcome_bind, SessionWork.outcome_count]
  dsimp only
  cases counted : database.count customerTable.name with
  | error fault => rfl
  | ok count =>
    dsimp only
    by_cases some_ : count ≠ 0
    · rw [if_pos some_, if_pos some_]
      rfl
    · rw [if_neg some_, if_neg some_]
      -- Nothing is committed on the way, so a fault shows the database of the beginning.
      have kept := SessionWork.Uncommitted.insertSampleData (referenceTime now host) host ⟨database, database⟩
      rw [SessionWork.outcome_bind]
      unfold referenceTime at *
      generalize (SessionWork.insertSampleData _ host).outcome _ = ended at *
      rcases ended with ⟨fault | _, later⟩
      · exact congrArg (·, Except.error fault) kept
      · rfl

/-- The rows of a table that exists. -/
theorem Database.rows_of_table? {name : String} {relation : Relation}
    (found : database.table? name = some relation) : database.rows name = relation.rows := by
  rw [rows, found]
  rfl

/-- The rows of a table that exists are counted. -/
theorem Database.count_of_table? {name : String} {relation : Relation}
    (found : database.table? name = some relation) : database.count name = .ok relation.rows.length := by
  rw [count, found]

/-- Where there are rows, their number is not zero. -/
theorem Database.count_of_rows {name : String} (filled : database.rows name ≠ []) :
    ∃ count, database.count name = .ok count ∧ count ≠ 0 := by
  -- Rows can only be in a table that is there, and there they are counted.
  cases found : database.table? name with
  | none => exact absurd (by rw [rows, found]; rfl) filled
  | some relation =>
    rw [rows_of_table? found] at filled
    exact ⟨_, count_of_table? found, fun none => filled (List.length_eq_zero_iff.mp none)⟩

/-- Where there are no rows, none are counted, unless the table does not exist. -/
theorem Database.count_of_no_rows {name : String} (empty : database.rows name = []) :
    database.table? name = none ∧ database.count name = .error (.noTable name) ∨
      database.count name = .ok 0 := by
  -- A table that is missing counts nothing, and one that is there counts its rows.
  cases found : database.table? name with
  | none => exact .inl ⟨rfl, by rw [count, found]⟩
  | some relation =>
    rw [rows_of_table? found] at empty
    exact .inr (by rw [count_of_table? found, empty]; rfl)

/-- The dates of the sample data are counted from the given time, or else from the present. -/
theorem referenceTime_eq (now : Option Moment) (host : Host) :
    referenceTime (now.elim .null .moment) host = .moment (now.getD ⟨host.clock, none⟩) := by
  cases now <;> rfl

/--
Seeding ends in one of three ways.

There are customers and nothing happens, or a fault leaves the database as it is, or all sample data is stored.
-/
theorem Database.seed_cases (database : Database) (now : Option Moment) (host : Host) :
    (database.rows customerTable.name ≠ [] ∧
      database.seed (now.elim .null .moment) host = (database, .ok false)) ∨
    (database.rows customerTable.name = [] ∧
      ∃ fault, database.seed (now.elim .null .moment) host = (database, .error fault)) ∨
    (database.rows customerTable.name = [] ∧ ∃ later,
      (SessionWork.insertSampleData (.moment (now.getD ⟨host.clock, none⟩)) host).outcome
        ⟨database, database⟩ = (.ok (), later) ∧
      database.seed (now.elim .null .moment) host = (later.current, .ok true)) := by
  rw [seed_eq, referenceTime_eq]
  by_cases empty : database.rows customerTable.name = []
  · refine .inr ?_
    obtain ⟨-, uncounted⟩ | none := count_of_no_rows empty
    · exact .inl ⟨empty, _, by rw [uncounted]⟩
    · rw [none]
      dsimp only
      rw [if_neg (not_not_intro rfl)]
      -- The session either stores everything, or a fault gives up what it has stored.
      rcases (SessionWork.insertSampleData _ host).outcome _ with ⟨fault | _, later⟩
      · exact .inl ⟨empty, fault, rfl⟩
      · exact .inr ⟨empty, later, rfl, rfl⟩
  · obtain ⟨count, counted, some_⟩ := count_of_rows empty
    exact .inl ⟨empty, by rw [counted]; exact if_pos some_⟩

/-- Two spellings of a name lead to one table. -/
theorem Database.table?_congr {first second : String} (same : sameIdentifier first second = true) :
    database.table? first = database.table? second := by
  simp only [table?, sameIdentifier, eq_of_beq same]

/-- A created table is found without rows unless it was there already; all others are found as before. -/
theorem Database.table?_create (database : Database) (definition : TableDefinition) (name : String) :
    (database.create definition).table? name = (database.table? name).or
      (if sameIdentifier definition.name name then some definition.relation else none) := by
  -- A table that is already there is left as it is.
  rw [create]
  split
  · rename_i relation found
    split
    · rename_i same
      rw [← table?_congr same, found, Option.some_or]
    · rw [Option.or_none]
  · -- The new table stands behind the former ones.
    simp only [table?, add, List.find?_append, Option.map_or, List.find?_singleton]
    split <;> simp [*]

/-- Creating a table of the domain keeps the tables of the domain as they are defined. -/
theorem Database.IsCustomer.create {definition : TableDefinition} (known : database.IsCustomer)
    (member : definition ∈ customerTables) : (database.create definition).IsCustomer := by
  intro other among relation found
  rw [table?_create, Option.or_eq_some_iff] at found
  -- What is found was there before, or it has just been created without rows.
  obtain former | ⟨-, created⟩ := found
  · exact known other among relation former
  · split at created
    · rename_i same
      cases eq_of_sameIdentifier member among same
      cases created
      exact ⟨rfl, fun _ => List.forall_mem_nil _, .nil⟩
    · contradiction

/-- The tables that are created are there, beside those that were there before. -/
theorem Database.isSome_table?_createAll (definitions : List TableDefinition) (database : Database)
    (name : String) (expected : (database.table? name).isSome = true ∨
      ∃ definition ∈ definitions, definition.name = name) :
    ((database.createAll definitions).table? name).isSome = true := by
  -- Creating one table loses none, so what is expected of the rest is still there.
  induction definitions generalizing database with
  | nil =>
    have known : (database.table? name).isSome = true := by simpa using expected
    exact known
  | cons definition rest ih =>
    refine ih (database.create definition) ?_
    rw [table?_create, Option.isSome_or]
    rcases expected with known | ⟨other, member, rfl⟩
    · exact .inl (by rw [known, Bool.true_or])
    · rcases List.mem_cons.mp member with rfl | later
      · refine .inl ?_
        rw [if_pos (sameIdentifier_iff.mpr rfl), Option.isSome_some, Bool.or_true]
      · exact .inr ⟨other, later, rfl⟩

/-- Tables that are there are not created again. -/
theorem Database.createAll_eq_self {definitions : List TableDefinition}
    (known : ∀ definition ∈ definitions, (database.table? definition.name).isSome = true) :
    database.createAll definitions = database := by
  -- Each table is found, so creating it changes nothing and the rest find theirs, too.
  induction definitions with
  | nil => rfl
  | cons definition rest ih =>
    obtain ⟨first, others⟩ := List.forall_mem_cons.mp known
    have same : database.create definition = database := by
      obtain ⟨relation, found⟩ := Option.isSome_iff_exists.mp first
      rw [create]
      split
      · rfl
      · simp_all
    rw [createAll, List.foldl_cons, same]
    exact ih others

/-- The tables of the domain are as they are defined when those that were missing are created. -/
theorem Database.IsCustomer.createCustomerTables (known : database.IsCustomer) :
    database.createCustomerTables.IsCustomer := by
  -- The induction is on the tables that are left to be created, from any database.
  have general : ∀ definitions ⊆ customerTables, ∀ before : Database, before.IsCustomer →
      (before.createAll definitions).IsCustomer := by
    intro definitions
    induction definitions with
    | nil => exact fun _ before known => known
    | cons definition rest ih =>
      intro among before known
      obtain ⟨member, among⟩ := List.cons_subset.mp among
      exact ih among _ (known.create member)
  exact general customerTables (List.Subset.refl _) database known

/-- A database that is set up: all tables are there, and customers too when they are asked for. -/
structure Database.IsSetUp (database : Database) (seeding : Bool) : Prop where
  /-- The tables are there. -/
  tables : ∀ definition ∈ customerTables, (database.table? definition.name).isSome = true
  /-- There are customers when sample data is asked for. -/
  customers : seeding = true → database.rows customerTable.name ≠ []

variable {seeding : Bool}

/-- Setting up a database that is set up changes nothing, at any time. -/
theorem Database.IsSetUp.setUp_eq_self (ready : database.IsSetUp seeding) (host : Host) :
    database.setUp seeding host = (database, .ok ()) := by
  -- The tables are there, and so are customers, so nothing is created and nothing is seeded.
  have created : database.createCustomerTables = database := createAll_eq_self ready.tables
  rw [setUp, created]
  cases seeding with
  | false => rfl
  | true =>
    obtain ⟨count, counted, some_⟩ := count_of_rows (ready.customers rfl)
    have nothing : database.seed .null host = (database, .ok false) := by
      rw [seed_eq, counted]
      exact if_pos some_
    rw [if_pos rfl, nothing]
    rfl

/-- Setting up either succeeds, or it creates the tables and no more. -/
theorem Database.IsCustomer.setUp_cases (known : database.IsCustomer) (seeding : Bool)
    (host : Host) :
    ((database.setUp seeding host).2 = .ok () ∧ (database.setUp seeding host).1.IsSetUp seeding) ∨
    (seeding = true ∧ (∃ fault, (database.setUp seeding host).2 = .error fault) ∧
      (database.setUp seeding host).1 = database.createCustomerTables) := by
  -- The tables come first and cannot fail, so only seeding is left to fail.
  have tables : ∀ definition ∈ customerTables,
      (database.createCustomerTables.table? definition.name).isSome = true := fun definition member =>
    isSome_table?_createAll customerTables database _ (.inr ⟨definition, member, rfl⟩)
  cases seeding with
  | false => exact .inl ⟨rfl, tables, nofun⟩
  | true =>
    rw [setUp, if_pos rfl]
    obtain ⟨filled, same⟩ | ⟨-, fault, same⟩ | ⟨-, later, ended, same⟩ :=
      database.createCustomerTables.seed_cases none host
    all_goals rw [Option.elim_none] at same; rw [same]
    · exact .inl ⟨rfl, tables, fun _ => filled⟩
    · exact .inr ⟨rfl, ⟨fault, rfl⟩, rfl⟩
    · obtain ⟨-, numbers, gains⟩ :=
        SessionWork.insertSampleData_gains known.createCustomerTables ended
      refine .inl ⟨rfl, fun definition member => ?_, fun _ none => ?_⟩
      · have columns := congrArg Option.isSome (gains.columns definition.name)
        rw [Option.isSome_map, Option.isSome_map] at columns
        exact columns.trans (tables definition member)
      · -- There are sample customers, so the table is not without rows.
        have rows := gains.customers
        rw [none] at rows
        have size := rows.length_eq
        simp [sampleCustomers] at size

/-- The database after it has been set up several times, each time on a host as it is then. -/
def Database.setUpRepeatedly (database : Database) (seeding : Bool) (hosts : List Host) : Database :=
  hosts.foldl (fun database host => (database.setUp seeding host).1) database

/-- The first time comes first. -/
theorem Database.setUpRepeatedly_cons (database : Database) (seeding : Bool) (first : Host)
    (later : List Host) : database.setUpRepeatedly seeding (first :: later) =
      (database.setUp seeding first).1.setUpRepeatedly seeding later :=
  List.foldl_cons

/-- A database that is set up stays as it is however often it is set up again. -/
theorem Database.IsSetUp.setUpRepeatedly_eq_self (ready : database.IsSetUp seeding)
    (hosts : List Host) : database.setUpRepeatedly seeding hosts = database := by
  -- The first time changes nothing, so the later ones begin with the same database.
  induction hosts with
  | nil => rfl
  | cons host rest ih =>
    rw [setUpRepeatedly_cons, ready.setUp_eq_self]
    exact ih

/-- Setting up a database whose tables have been created is setting up the database itself. -/
theorem Database.createCustomerTables_setUp (database : Database) (seeding : Bool) (host : Host) :
    database.createCustomerTables.setUp seeding host = database.setUp seeding host := by
  -- The tables that are created the second time are there already.
  have again : database.createCustomerTables.createCustomerTables = database.createCustomerTables :=
    createAll_eq_self fun definition member =>
      isSome_table?_createAll customerTables database _ (.inr ⟨definition, member, rfl⟩)
  rw [setUp, setUp, again]

/--
However often a database is set up, it comes to what one of the times alone makes of it.

That is the first time when it succeeds.
-/
theorem Database.IsCustomer.exists_setUpRepeatedly (known : database.IsCustomer) (seeding : Bool)
    (first : Host) (later : List Host) :
    ∃ host ∈ first :: later,
      database.setUpRepeatedly seeding (first :: later) = (database.setUp seeding host).1 ∧
      ((database.setUp seeding first).2 = .ok () → host = first) := by
  -- The first success decides: before it only tables are created, and after it nothing changes.
  induction later generalizing database first with
  | nil => exact ⟨first, List.mem_singleton_self _, rfl, fun _ => rfl⟩
  | cons second rest ih =>
    have step := database.setUpRepeatedly_cons seeding first (second :: rest)
    obtain ⟨-, ready⟩ | ⟨-, ⟨fault, failed⟩, created⟩ := known.setUp_cases seeding first
    · -- Success is the end of it: nothing changes any more.
      exact ⟨first, List.mem_cons_self, by rw [step, ready.setUpRepeatedly_eq_self], fun _ => rfl⟩
    · -- A fault leaves the tables that were created, and the next time begins as the first one did.
      obtain ⟨host, member, same, -⟩ := ih known.createCustomerTables second
      rw [createCustomerTables_setUp] at same
      have comes : database.setUpRepeatedly seeding (first :: second :: rest) = (database.setUp seeding host).1 :=
        calc
          _ = (database.setUp seeding first).1.setUpRepeatedly seeding (second :: rest) := step
          _ = database.createCustomerTables.setUpRepeatedly seeding (second :: rest) := by rw [created]
          _ = (database.setUp seeding host).1 := same
      refine ⟨host, List.mem_cons_of_mem _ member, comes, fun done => ?_⟩
      rw [failed] at done
      contradiction

/-- A database without customers is seeded where the calendar has all dates, while there are numbers left. -/
theorem Database.IsCustomer.seed_of_dated (known : database.IsCustomer)
    (empty : database.rows customerTable.name = []) (now : Option Moment)
    (room : ∀ definition ∈ customerTables, database.HasRoom definition.name 100)
    (dated : ∀ days ∈ sampleDays, (now.getD ⟨host.clock, none⟩).time.HasDay days) :
    ∃ after, database.seed (now.elim .null .moment) host = (after, .ok true) := by
  -- The tables are there, so customers can be counted, and there are none.
  obtain ⟨relation, found, -⟩ := room customerTable (by simp [customerTables])
  obtain ⟨missing, -⟩ | none_ := count_of_no_rows empty
  · rw [found] at missing
    contradiction
  obtain ⟨later, ended⟩ : ∃ later, (SessionWork.insertSampleData (.moment (now.getD ⟨host.clock, none⟩))
      host).outcome ⟨database, database⟩ = (.ok (), later) :=
    SessionWork.exists_insertSampleData known empty room dated
  refine ⟨later.current, ?_⟩
  -- The reference time is the one given, or else that of the host.
  rw [seed_eq, referenceTime_eq, none_]
  dsimp only
  rw [if_neg (not_not_intro rfl), ended]

/--
Seeding is all or nothing, and happens once.

A database with customers stays as it is. One without customers gets all sample rows beside its former rows, with
new numbers, or stays as it is; a date that the calendar has not is such a fault, and while there are numbers left it
is the only one. However often a database is set up, it comes to what one of the times alone makes of it: the first
one when that succeeds.
-/
theorem Database.seed_all_or_nothing (known : database.IsCustomer) (now : Option Moment)
    (host : Host) :
    let reference := (now.getD ⟨host.clock, none⟩).time
    let seeded := database.seed (now.elim .null .moment) host
    (database.rows customerTable.name ≠ [] → seeded = (database, .ok false)) ∧
    (database.rows customerTable.name = [] →
      (∀ answer, seeded.2 = .ok answer → answer = true ∧ (∀ days ∈ sampleDays, reference.HasDay days) ∧
        ∃ numbers, database.GainsSamples seeded.1 reference.dayCell numbers) ∧
      (∀ fault, seeded.2 = .error fault → seeded.1 = database) ∧
      ((∃ days ∈ sampleDays, ¬ reference.HasDay days) → ∃ fault, seeded = (database, .error fault)) ∧
      ((∀ definition ∈ customerTables, database.HasRoom definition.name 100) →
        (∀ days ∈ sampleDays, reference.HasDay days) → seeded.2 = .ok true)) ∧
    ∀ seeding first later, ∃ time ∈ first :: later,
      database.setUpRepeatedly seeding (first :: later) = (database.setUp seeding time).1 ∧
      ((database.setUp seeding first).2 = .ok () → time = first) := by
  intro reference seeded
  -- Seeding has three ends: customers are found, something fails, or the sample data is stored.
  refine ⟨fun filled => ?_, fun empty => ?_, known.exists_setUpRepeatedly⟩
  · obtain ⟨-, same⟩ | ⟨empty, -⟩ | ⟨empty, -⟩ := database.seed_cases now host
    · exact same
    · exact absurd empty filled
    · exact absurd empty filled
  · obtain ⟨filled, -⟩ | ⟨-, fault, same⟩ | ⟨-, later, ended, same⟩ := database.seed_cases now host
    · exact absurd empty filled
    · -- A fault cannot come from the dates alone while there are numbers left.
      replace same : seeded = (database, .error fault) := same
      rw [same]
      refine ⟨nofun, fun _ _ => rfl, fun _ => ⟨fault, rfl⟩, fun room dated => ?_⟩
      obtain ⟨after, stored⟩ := known.seed_of_dated empty now room dated
      exact absurd (congrArg Prod.snd (same.symm.trans stored)) nofun
    · replace same : seeded = (later.current, .ok true) := same
      obtain ⟨dated, gained⟩ := SessionWork.insertSampleData_gains known ended
      rw [same]
      refine ⟨?_, nofun, ?_, fun _ _ => rfl⟩
      · rintro _ ⟨⟩
        exact ⟨rfl, dated, gained⟩
      · rintro ⟨days, needed, missing⟩
        exact absurd (dated days needed) missing

/-- A product that was left behind. -/
def remainingProduct : Row :=
  [.integer 7, .integer 3, .text "Voice Connect", .text "VC-STD", .integer 5, .integer 8]

/-- An interaction that was left behind, with the largest number there is. -/
def remainingInteraction : Row :=
  [.integer 9223372036854775807, .text "C009", .text "Left", .text "email",
   .text "2024-02-29 12:00:00.000000"]

/-- A database whose customers are gone. -/
def emptiedDatabase : Database where
  tables := [⟨"CustomerProfile", customerTable.relation⟩,
    ⟨"Subscription", subscriptionTable.relation⟩,
    ⟨"Product", ⟨productTable.columns.map (·.column), [remainingProduct], by decide⟩⟩,
    ⟨"Interaction", ⟨interactionTable.columns.map (·.column), [remainingInteraction], by decide⟩⟩]
  distinct := by decide

/-- The tables of that database. -/
theorem emptiedDatabase_tables :
    emptiedDatabase.table? customerTable.name = some customerTable.relation ∧
    emptiedDatabase.table? subscriptionTable.name = some subscriptionTable.relation ∧
    emptiedDatabase.table? productTable.name =
      some ⟨productTable.columns.map (·.column), [remainingProduct], by decide⟩ ∧
    emptiedDatabase.table? interactionTable.name =
      some ⟨interactionTable.columns.map (·.column), [remainingInteraction], by decide⟩ := by
  -- The tables are few and small enough to be looked through.
  decide +kernel

/-- The tables of that database are as they are defined. -/
theorem emptiedDatabase_isCustomer : emptiedDatabase.IsCustomer := by
  obtain ⟨customers, subscriptions, products, interactions⟩ := emptiedDatabase_tables
  intro definition member relation found
  simp only [customerTables, List.mem_cons, List.not_mem_nil, or_false] at member
  -- Two tables are without rows, and the rows of the others have one number each.
  rcases member with rfl | rfl | rfl | rfl
  · cases customers.symm.trans found
    exact ⟨rfl, fun _ => List.forall_mem_nil _, .nil⟩
  · cases subscriptions.symm.trans found
    exact ⟨rfl, fun _ => List.forall_mem_nil _, .nil⟩
  · cases products.symm.trans found
    exact ⟨rfl, fun _ => List.forall_mem_singleton.mpr ⟨7, rfl⟩, List.nodup_singleton _⟩
  · cases interactions.symm.trans found
    exact ⟨rfl, fun _ => List.forall_mem_singleton.mpr ⟨9223372036854775807, rfl⟩,
      List.nodup_singleton _⟩

/-- The noon that is four hundred days after the first noon of the calendar. -/
def earliestNoon : LocalTime := ⟨⟨⟨2, 2, 5⟩, rfl⟩, .ofMicros (microsPerDay / 2)⟩

/-- The noon of the day before. -/
def tooEarlyNoon : LocalTime := ⟨⟨⟨2, 2, 4⟩, rfl⟩, .ofMicros (microsPerDay / 2)⟩

/-- A machine on which it is that noon. -/
def earliestHost : Host := ⟨earliestNoon, .smallest⟩

/-- Sample data is added to what is left of a database; a day earlier the calendar lacks a date, and nothing is. -/
theorem emptiedDatabase_seeded :
    emptiedDatabase.IsCustomer ∧ emptiedDatabase.rows customerTable.name = [] ∧
    (∃ after numbers, emptiedDatabase.seed (.moment ⟨earliestNoon, none⟩) earliestHost = (after, .ok true) ∧
      emptiedDatabase.GainsSamples after earliestNoon.dayCell numbers) ∧
    (∃ fault, emptiedDatabase.seed (.moment ⟨tooEarlyNoon, none⟩) earliestHost =
      (emptiedDatabase, .error fault)) := by
  -- Every table has room, and every date of the samples is in the calendar at the earliest noon.
  obtain ⟨customers, subscriptions, products, interactions⟩ := emptiedDatabase_tables
  have empty : emptiedDatabase.rows customerTable.name = [] := Database.rows_of_table? customers
  have room : ∀ definition ∈ customerTables, emptiedDatabase.HasRoom definition.name 100 := by
    simp only [customerTables, List.forall_mem_cons, List.not_mem_nil, false_implies, implies_true,
      and_true]
    exact ⟨⟨_, customers, by decide⟩, ⟨_, subscriptions, by decide⟩, ⟨_, products, by decide⟩,
      ⟨_, interactions, by decide⟩⟩
  have dated : ∀ days ∈ sampleDays, earliestNoon.HasDay days := by
    unfold LocalTime.HasDay
    decide +kernel
  have missing : ¬ tooEarlyNoon.HasDay (-400) := by
    unfold LocalTime.HasDay
    decide +kernel
  -- At the earliest noon the theorem seeds, and a day earlier it refuses for want of a date.
  obtain ⟨-, seeds, -⟩ := Database.seed_all_or_nothing emptiedDatabase_isCustomer
    (some ⟨earliestNoon, none⟩) earliestHost
  obtain ⟨gains, -, -, stores⟩ := seeds empty
  obtain ⟨-, refuses, -⟩ := Database.seed_all_or_nothing emptiedDatabase_isCustomer
    (some ⟨tooEarlyNoon, none⟩) earliestHost
  obtain ⟨-, -, refused, -⟩ := refuses empty
  have stored := stores room dated
  obtain ⟨-, -, numbers, gained⟩ := gains true stored
  exact ⟨emptiedDatabase_isCustomer, empty, ⟨_, numbers, Prod.snd_eq_iff.mp stored, gained⟩,
    refused ⟨-400, by decide, missing⟩⟩

end Joinery
