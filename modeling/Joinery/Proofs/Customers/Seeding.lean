import Joinery.Proofs.Customers.SampleRows
import Joinery.Proofs.Database.Sessions

/-!
Seeding adds the sample rows to a database without customers, or leaves the database as it is.

The rows are stored in a session. Each step of it keeps the tables as they are defined and gains the rows that it
stores; only the last one shows any of them to others.
-/

namespace Joinery

/-- The tables of the domain that a database has are as they are defined. -/
def Database.IsCustomer (database : Database) : Prop :=
  ∀ definition ∈ customerTables, ∀ relation,
    database.table? definition.name = some relation → definition.Holds relation

variable {before after : Database} {definition other : TableDefinition} {host : Host}
  {row : NewRow} {key start : Cell} {image : Cell → Row} {session later : Session}

/-- Every table of the domain has its key in the first column. -/
theorem keyFirst_of_mem (member : definition ∈ customerTables) : definition.KeyFirst := by
  -- There are four tables, and in each the first column is the key.
  have all : ∀ definition ∈ customerTables, definition.KeyFirst := by
    simp only [customerTables, List.forall_mem_cons, List.not_mem_nil, false_implies, implies_true,
      and_true]
    decide
  exact all definition member

/-- No two tables of the domain are found under one name. -/
theorem eq_of_sameIdentifier (member : definition ∈ customerTables) (among : other ∈ customerTables)
    (same : sameIdentifier definition.name other.name = true) : definition = other := by
  -- Of four names no two are the same in lower case.
  simp only [customerTables, List.mem_cons, List.not_mem_nil, or_false] at member among
  rcases member with rfl | rfl | rfl | rfl <;> rcases among with rfl | rfl | rfl | rfl <;>
    first | rfl | exact absurd same (by decide)

/-- Storing a row keeps the tables of the domain as they are defined, and gains the row. -/
theorem Database.IsCustomer.insert (known : before.IsCustomer) (member : definition ∈ customerTables)
    (makes : definition.Makes host.clock row start image)
    (inserted : before.insert definition host row = .ok (after, key)) :
    after.IsCustomer ∧ (∃ keys, definition.keyCell host.numbering keys start = .ok key) ∧
      before.Gains after (addedTo definition.name [image key]) := by
  obtain ⟨given, keys, made, keyed, own, gains⟩ :=
    TableDefinition.Holds.insert (keyFirst_of_mem member) (known definition member) inserted
  obtain ⟨_, same, started, imaged⟩ := makes
  cases made.symm.trans same
  rw [started] at keyed
  rw [(imaged key).1] at gains
  refine ⟨fun other among relation found => ?_, ⟨keys, keyed⟩, gains⟩
  -- A table is the one that takes the row, or it is found as before.
  by_cases here : sameIdentifier definition.name other.name = true
  · cases eq_of_sameIdentifier member among here
    exact own relation found
  · exact known other among relation ((gains.others other.name (if_neg here)).symm.trans found)

/-- Rows that are added one after the other are added together. -/
theorem addedTo_append (table : String) (first second : List Row) (name : String) :
    addedTo table (first ++ second) name = addedTo table first name ++ addedTo table second name := by
  -- Where the rows go to the table they are appended, and elsewhere nothing is.
  simp only [addedTo]
  split <;> simp

/-- The keys of the rows of a table: they stand in front. -/
def Database.keys (database : Database) (definition : TableDefinition) : List Cell :=
  (database.rows definition.name).map (·.headD .null)

/-- No two rows of a table of the domain have one key. -/
theorem Database.IsCustomer.nodup_keys (known : before.IsCustomer) (member : definition ∈ customerTables) :
    (before.keys definition).Nodup := by
  -- A table that is missing has no keys; in one that is there, the first cells are the keys.
  rw [keys, rows]
  cases found : before.table? definition.name with
  | none => exact .nil
  | some relation =>
    have holds := known definition member relation found
    have distinct := holds.distinct
    rwa [funext (holds.cell_eq_head (keyFirst_of_mem member))] at distinct

/-- The products on subscriptions, each with the number of its subscription. -/
def numberedProducts (subscriptions : List SampleSubscription) (numbers : List Int) :
    List (SampleProduct × Int) :=
  (subscriptions.zip numbers).flatMap fun (subscription, number) =>
    subscription.products.map (·, number)

namespace SessionWork

/-- A sample row is stored where it has all its dates, and the database of the session takes it. -/
theorem outcome_insertSample_eq_ok {row : SampleRow} :
    (insertSample definition host row).outcome session = (.ok key, later) ↔ ∃ new database,
      row = .ok new ∧ session.current.insert definition host new = .ok (database, key) ∧
        later = { session with current := database } := by
  -- A row whose values cannot be given stores nothing; any other is what the session inserts.
  cases row with
  | error misuse => exact iff_of_false nofun nofun
  | ok new =>
    show (SessionWork.insert definition host new).outcome session = _ ↔ _
    rw [outcome_insert_eq_ok]
    constructor
    · rintro ⟨database, inserted, rfl⟩
      exact ⟨new, database, rfl, inserted, rfl⟩
    · rintro ⟨_, database, ⟨⟩, inserted, rfl⟩
      exact ⟨database, inserted, rfl⟩

/-- Sample rows are gained together, each under a key that its table has given to it. -/
theorem insertSamples_gains {rows : List SampleRow} {made : List (Cell × (Cell → Row))}
    (member : definition ∈ customerTables)
    (makes : List.Forall₂ (fun row m => (∃ new, row = .ok new) → SampleRow.Makes definition host.clock row m)
      rows made)
    (known : session.current.IsCustomer)
    (ended : (insertSamples definition host rows).outcome session = (.ok (), later)) :
    later.current.IsCustomer ∧ (∀ row ∈ rows, ∃ new, row = .ok new) ∧ ∃ keys,
      List.Forall₂ (fun (m : Cell × (Cell → Row)) key => ∃ others,
        definition.keyCell host.numbering others m.1 = .ok key) made keys ∧
      session.current.Gains later.current
        (addedTo definition.name (List.zipWith (fun m key => m.2 key) made keys)) := by
  -- Each row is gained by itself, and the later ones begin with the database that has it.
  induction makes generalizing session with
  | nil =>
    cases ended
    refine ⟨known, nofun, [], .nil, ?_⟩
    have nothing : addedTo definition.name [] = fun _ => [] := by
      funext name
      exact ite_self []
    exact nothing ▸ .refl _
  | @cons row m rows made first _ ih =>
    obtain ⟨key, between, stored, rest⟩ := outcome_bind_eq_ok.mp ended
    obtain ⟨new, database, rfl, inserted, rfl⟩ := outcome_insertSample_eq_ok.mp stored
    -- That the row was stored shows that its values could be given.
    obtain ⟨_, ⟨⟩, makes⟩ := first ⟨new, rfl⟩
    obtain ⟨known, keyed, gained⟩ := known.insert member makes inserted
    obtain ⟨known, valued, keys, aligned, gains⟩ := ih known rest
    refine ⟨known, List.forall_mem_cons.mpr ⟨⟨new, rfl⟩, valued⟩, key :: keys, .cons keyed aligned, ?_⟩
    have together := gained.trans gains
    simp only [← addedTo_append] at together
    exact together

/-- Numbered sample rows are gained together, each under a number. -/
theorem insertSamples_numbered {rows : List SampleRow} {images : List (Cell → Row)}
    (member : definition ∈ customerTables) (numbered : definition.numbered = true)
    (makes : List.Forall₂ (fun row image => (∃ new, row = .ok new) →
      SampleRow.Makes definition host.clock row (.null, image)) rows images)
    (known : session.current.IsCustomer)
    (ended : (insertSamples definition host rows).outcome session = (.ok (), later)) :
    later.current.IsCustomer ∧ (∀ row ∈ rows, ∃ new, row = .ok new) ∧
      ∃ numbers : List Int, numbers.length = images.length ∧
        session.current.Gains later.current (addedTo definition.name
          (List.zipWith (fun image number => image (.integer number)) images numbers)) := by
  obtain ⟨known, valued, keys, aligned, gains⟩ :=
    insertSamples_gains member (List.forall₂_map_right_iff.mpr makes) known ended
  rw [List.forall₂_map_left_iff] at aligned
  -- No key is given for these rows, so each has got a number.
  have numbers : ∃ numbers : List Int, keys = numbers.map .integer := by
    clear gains makes
    induction aligned with
    | nil => exact ⟨[], rfl⟩
    | cons keyed _ ih =>
      obtain ⟨others, keyed⟩ := keyed
      obtain ⟨n, rfl, -⟩ := TableDefinition.keyCell_null numbered keyed
      obtain ⟨numbers, rfl⟩ := ih
      exact ⟨n :: numbers, rfl⟩
  obtain ⟨numbers, rfl⟩ := numbers
  rw [List.zipWith_map] at gains
  exact ⟨known, valued, numbers, by simpa using aligned.length_eq.symm, gains⟩

variable {m : Moment}

/-- A sample subscription is gained with its products, which hold its number. -/
theorem insertSubscription_gains {subscription : SampleSubscription}
    (few : ∀ product ∈ subscription.products, fitsInt64 product.quantity = true)
    (known : session.current.IsCustomer)
    (ended : (insertSubscription (.moment m) host subscription).outcome session = (.ok (), later)) :
    later.current.IsCustomer ∧ m.time.HasDay subscription.firstDay ∧ m.time.HasDay subscription.lastDay ∧
      ∃ (number : Int) (products : List Int), products.length = subscription.products.length ∧
        session.current.Gains later.current fun name =>
          addedTo subscriptionTable.name [subscription.stored m.time.dayCell (.integer number)] name ++
          addedTo productTable.name (List.zipWith (fun product n =>
            product.stored (.integer number) (.integer n)) subscription.products products) name := by
  -- The subscription comes first, and its number goes into the rows of its products.
  obtain ⟨key, between, stored, rest⟩ := outcome_bind_eq_ok.mp ended
  obtain ⟨new, database, valued, inserted, rfl⟩ := outcome_insertSample_eq_ok.mp stored
  -- The subscription has been stored, so the calendar has its days.
  have dated := (subscription.row_dated m host.clock).1 ⟨new, valued⟩
  obtain ⟨_, same, makes⟩ := (subscription.row_dated m host.clock).2 dated
  cases valued.symm.trans same
  obtain ⟨known, ⟨others, keyed⟩, gained⟩ := known.insert (by simp [customerTables]) makes inserted
  obtain ⟨number, rfl, fits, -⟩ := TableDefinition.keyCell_null rfl keyed
  have made : List.Forall₂ (fun row image => (∃ new, row = .ok new) →
      SampleRow.Makes productTable host.clock row (.null, image))
      (subscription.products.map fun product => .ok (product.row (.integer number)))
      (subscription.products.map fun product => product.stored (.integer number)) := by
    rw [List.forall₂_map_left_iff, List.forall₂_map_right_iff, List.forall₂_same]
    exact fun product member _ => ⟨_, rfl, product.makes fits (few product member)⟩
  obtain ⟨known, -, products, size, gains⟩ :=
    insertSamples_numbered (by simp [customerTables]) rfl made known rest
  rw [List.zipWith_map_left] at gains
  exact ⟨known, dated.1, dated.2, number, products, by simpa using size, gained.trans gains⟩

/-- Sample subscriptions are gained with all their products. -/
theorem insertSubscriptions_gains {subscriptions : List SampleSubscription}
    (few : ∀ subscription ∈ subscriptions, ∀ product ∈ subscription.products,
      fitsInt64 product.quantity = true)
    (known : session.current.IsCustomer)
    (ended : (subscriptions.forM (insertSubscription (.moment m) host)).outcome session =
      (.ok (), later)) :
    later.current.IsCustomer ∧
      (∀ subscription ∈ subscriptions,
        m.time.HasDay subscription.firstDay ∧ m.time.HasDay subscription.lastDay) ∧
      ∃ numbers products : List Int, numbers.length = subscriptions.length ∧
        products.length = (numberedProducts subscriptions numbers).length ∧
        session.current.Gains later.current fun name =>
          addedTo subscriptionTable.name (List.zipWith (fun subscription n =>
            subscription.stored m.time.dayCell (.integer n)) subscriptions numbers) name ++
          addedTo productTable.name (List.zipWith (fun (offered : SampleProduct × Int) n =>
            offered.1.stored (.integer offered.2) (.integer n))
            (numberedProducts subscriptions numbers) products) name := by
  -- Each subscription adds to two tables, so the gains of the rest are sorted into them.
  induction subscriptions generalizing session with
  | nil =>
    cases ended
    refine ⟨known, nofun, [], [], rfl, rfl, ?_⟩
    simp only [numberedProducts, List.zip_nil_left, List.flatMap_nil, List.zipWith_nil_left, addedTo,
      ite_self, List.append_nil]
    exact .refl _
  | cons subscription rest ih =>
    obtain ⟨_, between, first, others⟩ := outcome_bind_eq_ok.mp ended
    obtain ⟨known, begins, ends, number, own, sized, gained⟩ :=
      insertSubscription_gains (few subscription List.mem_cons_self) known first
    obtain ⟨known, dated, numbers, products, size, size', gains⟩ :=
      ih (fun other member => few other (List.mem_cons_of_mem _ member)) known others
    have offered : numberedProducts (subscription :: rest) (number :: numbers) =
        subscription.products.map (·, number) ++ numberedProducts rest numbers := rfl
    refine ⟨known, List.forall_mem_cons.mpr ⟨⟨begins, ends⟩, dated⟩, number :: numbers, own ++ products,
      by simp [size], by simp [offered, sized, size'], ?_⟩
    refine (gained.trans gains).congr fun name => ?_
    have heading (row : Row) (rows : List Row) : addedTo subscriptionTable.name (row :: rows) name =
        addedTo subscriptionTable.name [row] name ++ addedTo subscriptionTable.name rows name :=
      addedTo_append _ [row] rows name
    rw [offered, List.zipWith_append (by simp [sized]), List.zipWith_map_left, List.zipWith_cons_cons,
      addedTo_append, heading _ (List.zipWith _ rest numbers)]
    -- Both tables gain their own rows before those of the other subscriptions.
    simp only [List.append_assoc]
    refine List.Perm.append_left _ ?_
    simp only [← List.append_assoc]
    exact List.Perm.append_right _ List.perm_append_comm

end SessionWork

/-- The days on which the sample data needs dates, counted from the reference time. -/
def sampleDays : List Int :=
  sampleCustomers.map (fun customer => -(customer.age : Int)) ++
    sampleInteractions.map (fun interaction => -(interaction.age : Int)) ++
    sampleSubscriptions.flatMap fun subscription => [subscription.firstDay, subscription.lastDay]

/-- Numbers for the sample rows that are numbered. -/
structure SampleNumbers where
  /-- Those of the interactions. -/
  interactions : List Int
  /-- Those of the subscriptions. -/
  subscriptions : List Int
  /-- Those of the products. -/
  products : List Int

/-- A database with the sample rows beside its former ones, under new numbers. -/
structure Database.GainsSamples (before after : Database) (day : Int → Cell) (numbers : SampleNumbers) :
    Prop where
  /-- The customers are there. -/
  customers : (after.rows customerTable.name).Perm (before.rows customerTable.name ++
    sampleCustomers.map fun customer => customer.stored day (.text customer.id))
  /-- The interactions are there, each under its number. -/
  interactions : (after.rows interactionTable.name).Perm (before.rows interactionTable.name ++
    List.zipWith (fun interaction number => interaction.stored day (.integer number))
      sampleInteractions numbers.interactions)
  /-- The subscriptions are there, each under its number. -/
  subscriptions : (after.rows subscriptionTable.name).Perm (before.rows subscriptionTable.name ++
    List.zipWith (fun subscription number => subscription.stored day (.integer number))
      sampleSubscriptions numbers.subscriptions)
  /-- The products are there, each under its number and with the number of its own subscription. -/
  products : (after.rows productTable.name).Perm (before.rows productTable.name ++
    List.zipWith (fun (offered : SampleProduct × Int) number =>
        offered.1.stored (.integer offered.2) (.integer number))
      (numberedProducts sampleSubscriptions numbers.subscriptions) numbers.products)
  /-- There are as many numbers as sample rows. -/
  sizes : numbers.interactions.length = sampleInteractions.length ∧
    numbers.subscriptions.length = sampleSubscriptions.length ∧
    numbers.products.length = (numberedProducts sampleSubscriptions numbers.subscriptions).length
  /-- No two rows have one number, whether they were there before or are new. -/
  fresh : (before.keys interactionTable ++ numbers.interactions.map Cell.integer).Nodup ∧
    (before.keys subscriptionTable ++ numbers.subscriptions.map Cell.integer).Nodup ∧
    (before.keys productTable ++ numbers.products.map Cell.integer).Nodup
  /-- The columns of all tables are as before. -/
  columns : ∀ name, (after.table? name).map (·.columns) = (before.table? name).map (·.columns)
  /-- Tables outside the domain are as before. -/
  others : ∀ name, (∀ definition ∈ customerTables, sameIdentifier definition.name name = false) →
    after.table? name = before.table? name

/-- Rows that are stored under numbers begin with these. -/
theorem map_headD_zipWith {α : Type} {items : List α} {numbers : List Int} {stored : α → Int → Row}
    (size : numbers.length = items.length)
    (first : ∀ item number, (stored item number).headD .null = .integer number) :
    (List.zipWith stored items numbers).map (·.headD .null) = numbers.map Cell.integer := by
  -- The numbers and the items are taken away in pairs.
  induction items generalizing numbers with
  | nil =>
    rw [List.length_eq_zero_iff.mp size]
    rfl
  | cons item rest ih =>
    cases numbers with
    | nil => contradiction
    | cons n numbers =>
      rw [List.zipWith_cons_cons, List.map_cons, first, ih (Nat.succ.inj size), List.map_cons]

/-- Numbers under which rows were gained are new, where no two rows have one key afterwards. -/
theorem nodup_keys_of_gained {α : Type} {items : List α} {numbers : List Int} {stored : α → Int → Row}
    (apart : (after.keys definition).Nodup)
    (gained : (after.rows definition.name).Perm
      (before.rows definition.name ++ List.zipWith stored items numbers))
    (size : numbers.length = items.length)
    (first : ∀ item number, (stored item number).headD .null = .integer number) :
    (before.keys definition ++ numbers.map Cell.integer).Nodup := by
  -- The keys afterwards are the former ones with the new numbers, and these are all different.
  have keys := gained.map (·.headD .null)
  rw [List.map_append, map_headD_zipWith size first] at keys
  exact keys.nodup_iff.mp apart

/-- A table gets the rows that are added to it. -/
theorem addedTo_self (table : String) (rows : List Row) : addedTo table rows table = rows :=
  if_pos (sameIdentifier_iff.mpr rfl)

/-- A table does not get rows that are added to another one. -/
theorem addedTo_other {table other : String} (apart : sameIdentifier table other = false)
    (rows : List Row) : addedTo table rows other = [] :=
  if_neg (Bool.eq_false_iff.mp apart)

namespace SessionWork

/-- The sample customers are gained under their identifiers, so the calendar has the days of all. -/
theorem insertCustomers_gains (known : session.current.IsCustomer)
    (ended : (insertSamples customerTable host (sampleCustomers.map (·.row (.moment m)))).outcome session =
      (.ok (), later)) :
    later.current.IsCustomer ∧ (∀ customer ∈ sampleCustomers, m.time.HasDay (-(customer.age : Int))) ∧
      session.current.Gains later.current (addedTo customerTable.name
        (sampleCustomers.map fun customer => customer.stored m.time.dayCell (.text customer.id))) := by
  have makes : List.Forall₂ (fun row made => (∃ new, row = .ok new) →
      SampleRow.Makes customerTable host.clock row made) (sampleCustomers.map (·.row (.moment m)))
      (sampleCustomers.map fun customer => (.text customer.id, customer.stored m.time.dayCell)) := by
    rw [List.forall₂_map_left_iff, List.forall₂_map_right_iff, List.forall₂_same]
    intro customer _ valued
    have dated := customer.row_dated m host.clock
    exact dated.2 (dated.1 valued)
  obtain ⟨known, valued, keys, aligned, gained⟩ :=
    insertSamples_gains (by simp [customerTables]) makes known ended
  -- Every customer brings its own identifier, so the keys are these.
  have named : keys = sampleCustomers.map fun customer => .text customer.id := by
    rw [List.forall₂_map_left_iff] at aligned
    have same : List.Forall₂ (· = ·) (sampleCustomers.map fun customer => Cell.text customer.id) keys := by
      refine List.forall₂_map_left_iff.mpr (aligned.imp ?_)
      rintro customer key ⟨_, ⟨⟩⟩
      rfl
    rw [List.forall₂_eq_eq_eq] at same
    exact same.symm
  rw [named, List.zipWith_map, List.zipWith_self] at gained
  exact ⟨known, fun customer member =>
    (customer.row_dated m host.clock).1 (valued _ (List.mem_map_of_mem member)), gained⟩

/-- The sample interactions are gained under numbers, so the calendar has the days of all. -/
theorem insertInteractions_gains (known : session.current.IsCustomer)
    (ended : (insertSamples interactionTable host (sampleInteractions.map (·.row (.moment m)))).outcome
      session = (.ok (), later)) :
    later.current.IsCustomer ∧
      (∀ interaction ∈ sampleInteractions, m.time.HasDay (-(interaction.age : Int))) ∧
      ∃ numbers : List Int, numbers.length = sampleInteractions.length ∧
        session.current.Gains later.current (addedTo interactionTable.name
          (List.zipWith (fun interaction n => interaction.stored m.time.dayCell (.integer n))
            sampleInteractions numbers)) := by
  have makes : List.Forall₂ (fun row image => (∃ new, row = .ok new) →
      SampleRow.Makes interactionTable host.clock row (.null, image))
      (sampleInteractions.map (·.row (.moment m)))
      (sampleInteractions.map fun interaction => interaction.stored m.time.dayCell) := by
    rw [List.forall₂_map_left_iff, List.forall₂_map_right_iff, List.forall₂_same]
    intro interaction _ valued
    have dated := interaction.row_dated m host.clock
    exact dated.2 (dated.1 valued)
  obtain ⟨known, valued, numbers, size, gained⟩ :=
    insertSamples_numbered (by simp [customerTables]) rfl makes known ended
  -- The rows are functions of their numbers, one for each interaction.
  rw [List.zipWith_map_left] at gained
  exact ⟨known, fun interaction member =>
    (interaction.row_dated m host.clock).1 (valued _ (List.mem_map_of_mem member)), numbers,
    by simpa using size, gained⟩

/-- All sample data is gained by a session that stores it. -/
theorem insertSampleData_gains (known : session.current.IsCustomer)
    (ended : (insertSampleData (.moment m) host).outcome session = (.ok (), later)) :
    (∀ days ∈ sampleDays, m.time.HasDay days) ∧
      ∃ numbers, session.current.GainsSamples later.current m.time.dayCell numbers := by
  -- Customers come first, then interactions, then subscriptions with their products.
  obtain ⟨_, first, stored, ended⟩ := outcome_bind_eq_ok.mp ended
  obtain ⟨_, second, stored', ended⟩ := outcome_bind_eq_ok.mp ended
  obtain ⟨known, aged, gained⟩ := insertCustomers_gains known stored
  obtain ⟨known, aged', numbers, size, gained'⟩ := insertInteractions_gains known stored'
  have few : ∀ subscription ∈ sampleSubscriptions, ∀ product ∈ subscription.products,
      fitsInt64 product.quantity = true := by decide
  obtain ⟨known, dated, subscriptions, products, size', size'', gained''⟩ :=
    insertSubscriptions_gains few known ended
  -- Together they add to each table of the domain only what one of the three added to it.
  have total := (gained.trans gained').trans gained''
  have rows (definition : TableDefinition) := total.rows definition.name
  have customerRows := rows customerTable
  have interactionRows := rows interactionTable
  have subscriptionRows := rows subscriptionTable
  have productRows := rows productTable
  simp (disch := decide) only [addedTo_self, addedTo_other, List.append_nil, List.nil_append]
    at customerRows interactionRows subscriptionRows productRows
  -- The tables still have distinct keys at the end, so the new numbers are distinct as well.
  have fresh (definition : TableDefinition) (member : definition ∈ customerTables) :=
    known.nodup_keys member
  refine ⟨?_, ⟨numbers, subscriptions, products⟩, ⟨customerRows, interactionRows, subscriptionRows,
    productRows, ⟨size, size', size''⟩, ⟨?_, ?_, ?_⟩, total.columns, ?_⟩⟩
  · intro days needed
    simp only [sampleDays, List.mem_append, List.mem_map, List.mem_flatMap, List.mem_cons,
      List.not_mem_nil, or_false] at needed
    rcases needed with (⟨customer, member, rfl⟩ | ⟨interaction, member, rfl⟩) |
      ⟨subscription, member, rfl | rfl⟩
    · exact aged customer member
    · exact aged' interaction member
    · exact (dated subscription member).1
    · exact (dated subscription member).2
  · exact nodup_keys_of_gained (fresh _ (by simp [customerTables])) interactionRows size fun _ _ => rfl
  · exact nodup_keys_of_gained (fresh _ (by simp [customerTables])) subscriptionRows size' fun _ _ => rfl
  · exact nodup_keys_of_gained (fresh _ (by simp [customerTables])) productRows size'' fun _ _ => rfl
  · -- A table outside the domain is none of the four that rows were added to.
    intro name apart
    refine total.others name ?_
    simp only [customerTables, List.forall_mem_cons] at apart
    obtain ⟨customer, subscription, product, interaction, -⟩ := apart
    simp only [addedTo_other customer, addedTo_other interaction, addedTo_other subscription,
      addedTo_other product, List.append_nil]

end SessionWork

end Joinery
