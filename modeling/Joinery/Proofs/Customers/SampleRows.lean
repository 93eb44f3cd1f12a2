import Joinery.Customers.Seeding
import Joinery.Proofs.Database.Inserting
import Joinery.Proofs.Number.Layout
import Joinery.Proofs.Time.Reading

/-! What the tables of the domain make of the sample rows, cell by cell. -/

namespace Joinery

/-- Any text that begins with digits and a hyphen spells no number. -/
theorem Decimal.readNumber?_hyphen {digits rest : List Char} (run : AllDigits digits) (negative : Bool) :
    Decimal.readNumber? negative (digits ++ '-' :: rest) = none := by
  -- The digits are read up to the hyphen, and no exponent begins with one.
  obtain ⟨values, read⟩ : ∃ values, asciiDigits (digits ++ '-' :: rest) = (values, '-' :: rest) := by
    induction digits with
    | nil => exact ⟨[], rfl⟩
    | cons c digits ih =>
      obtain ⟨value, small, rfl⟩ := run c List.mem_cons_self
      obtain ⟨values, read⟩ := ih fun c member => run c (List.mem_cons_of_mem _ member)
      have digit : ∀ value < 10, asciiDigit? (digitChar value) = some value := by decide
      exact ⟨value :: values, by rw [List.cons_append, asciiDigits, digit value small, read]⟩
  have exponent : readExponent? ('-' :: rest) = none := rfl
  simp [Decimal.readNumber?, read, exponent]

/-- Written digits begin with a digit and end with one. -/
theorem exists_ends_paddedDigits {width : Nat} (positive : 0 < width) (n : Nat) :
    ∃ first rest front last, paddedDigits width n = digitChar first :: rest ∧
      paddedDigits width n = front ++ [digitChar last] ∧ first < 10 ∧ last < 10 := by
  have digits := allDigits_paddedDigits width n
  -- There is at least the width, so neither end is missing.
  have filled : paddedDigits width n ≠ [] := by
    intro none
    have size := congrArg List.length none
    rw [paddedDigits, List.length_append, List.length_replicate, List.length_nil] at size
    omega
  obtain ⟨c, rest, begins⟩ := List.exists_cons_of_ne_nil filled
  obtain ⟨front, d, ends⟩ := (List.eq_nil_or_concat' _).resolve_left filled
  obtain ⟨first, small, rfl⟩ := digits c (begins ▸ List.mem_cons_self)
  obtain ⟨last, small', rfl⟩ := digits d (ends ▸ by simp)
  exact ⟨first, rest, front, last, begins, ends, small, small'⟩

/-- A stored moment spells no number. -/
theorem readNumeral?_storedText (t : LocalTime) : readNumeral? t.storedText = none := by
  -- Digits stand at both ends: those of the year, and those of the fraction.
  have dark : ∀ value < 10, isNumberBlank (digitChar value) = false ∧ digitChar value ≠ '+' ∧
      digitChar value ≠ '-' := by decide
  obtain ⟨first, rest, _, _, begins, _, small, _⟩ := exists_ends_paddedDigits (by decide : 0 < 4) t.date.year
  obtain ⟨_, _, front, last, _, ends, _, small'⟩ := exists_ends_paddedDigits (by decide : 0 < 6) t.clock.micro
  obtain ⟨middle, written⟩ : ∃ middle, t.storedText.toList =
      paddedDigits 4 t.date.year ++ '-' :: (middle ++ paddedDigits 6 t.clock.micro) := by
    refine ⟨paddedDigits 2 t.date.month ++ '-' :: (paddedDigits 2 t.date.day ++
      ' ' :: (t.clock.secondsText ++ ['.'])), ?_⟩
    simp [LocalTime.storedText, DayReading.text]
  -- Neither end of the text is blank.
  have kept : (((t.storedText.toList.dropWhile isNumberBlank).reverse).dropWhile isNumberBlank).reverse =
      t.storedText.toList := by
    have front_ : t.storedText.toList.dropWhile isNumberBlank = t.storedText.toList := by
      rw [written, begins, List.cons_append, List.dropWhile_cons_of_neg (by simp [(dark first small).1])]
    have back : t.storedText.toList.reverse.dropWhile isNumberBlank = t.storedText.toList.reverse := by
      rw [written, ends, ← List.append_assoc middle, ← List.cons_append, ← List.append_assoc,
        List.reverse_append, List.reverse_singleton, List.singleton_append,
        List.dropWhile_cons_of_neg (by simp [(dark last small').1])]
    rw [front_, back, List.reverse_reverse]
  have unsigned : splitSign t.storedText.toList = (false, t.storedText.toList) := by
    refine splitSign_eq_self fun c head => ?_
    rw [written, begins] at head
    cases head
    exact (dark first small).2
  -- The hyphen behind the year is where a reader of numbers gives up.
  have none_ : Decimal.readNumber? false t.storedText.toList = none := by
    rw [written]
    exact Decimal.readNumber?_hyphen (allDigits_paddedDigits 4 t.date.year) false
  simp only [readNumeral?, kept, unsigned, none_]
  rfl

/-- A stored moment stays a text in a column that prefers numbers. -/
theorem store_storedText (t : LocalTime) :
    Affinity.numeric.store (.text t.storedText) = .text t.storedText := by
  -- The text of a moment has marks among its digits, so it reads as no numeral.
  rw [Affinity.store, Cell.towardsNumber, readNumeral?_storedText]
  rfl

/--
The row that a defined table makes of given values under a key.

The key starts as what is given for it.
-/
def TableDefinition.Makes (definition : TableDefinition) (clock : LocalTime) (row : NewRow)
    (start : Cell) (image : Cell → Row) : Prop :=
  ∃ given, definition.columns.mapM (·.cell clock row) = .ok given ∧
    (Entries.get? given definition.key).getD .null = start ∧
    ∀ key, definition.rowOf (Entries.insert given definition.key key) = image key ∧
      (key.isNull = false → definition.checkRequired (Entries.insert given definition.key key) = .ok ())

/-- A sample customer as stored, with the cell of each day. -/
def SampleCustomer.stored (customer : SampleCustomer) (day : Int → Cell) (key : Cell) : Row :=
  [key, .text customer.name, .text customer.email, .text customer.phone, day (-(customer.age : Int))]

/-- A sample interaction as stored under a number. -/
def SampleInteraction.stored (interaction : SampleInteraction) (day : Int → Cell) (number : Cell) : Row :=
  [number, .text interaction.customer, .text interaction.summary, .text interaction.channel,
   day (-(interaction.age : Int))]

/-- A sample subscription as stored under a number. -/
def SampleSubscription.stored (subscription : SampleSubscription) (day : Int → Cell) (number : Cell) : Row :=
  [number, .text subscription.customer, .text subscription.plan, .text subscription.status,
   day subscription.firstDay, day subscription.lastDay]

/-- The price of a sample product, in a column that prefers numbers. -/
def SampleProduct.priceCell (product : SampleProduct) : Cell :=
  Affinity.numeric.store (Binary64.ofDecimal (.finite false product.cents (-2))).cell

/-- A sample product as stored under a number, with the number of its subscription. -/
def SampleProduct.stored (product : SampleProduct) (subscription number : Cell) : Row :=
  [number, subscription, .text product.name, .text product.sku, .integer product.quantity, product.priceCell]

variable {clock : LocalTime}

/-- A moment is stored as a text in a column of moments. -/
theorem ColumnDefinition.cell_moment {column : ColumnDefinition} {row : NewRow} {m : Moment}
    (type : column.type = .datetime) (given : row.get? column.name = some (.moment m)) :
    column.cell clock row = .ok (column.name, .text m.time.storedText) := by
  -- The text of the moment is what is stored, since no number can be read from it.
  have stored : (Value.moment m).cell .datetime = .ok (.text m.time.storedText) := rfl
  simp only [cell, given, Option.getD_some, type, stored, SemanticType.affinity, store_storedText]

/-- A sample customer is stored cell by cell. -/
theorem customerTable_makes (id name email phone : String) (m : Moment) :
    customerTable.Makes clock [("customer_id", .text id), ("name", .text name), ("email", .text email),
      ("phone", .text phone), ("created_at", .moment m)] (.text id) fun key =>
      [key, .text name, .text email, .text phone, .text m.time.storedText] := by
  -- Each column finds its value in the row, and the key is what the table is given.
  refine ⟨[("customer_id", .text id), ("name", .text name), ("email", .text email),
    ("phone", .text phone), ("created_at", .text m.time.storedText)], ?_, rfl, fun key => ⟨rfl, ?_⟩⟩
  · exact mapM_eq_ok.mpr <| .cons rfl <| .cons rfl <| .cons rfl <| .cons rfl <|
      .cons (ColumnDefinition.cell_moment rfl rfl) .nil
  · intro given
    cases key <;> first | contradiction | rfl

/-- A sample interaction is stored cell by cell. -/
theorem interactionTable_makes (customer summary channel : String) (m : Moment) :
    interactionTable.Makes clock [("customer_id", .text customer), ("summary", .text summary),
      ("channel", .text channel), ("timestamp", .moment m)] .null fun key =>
      [key, .text customer, .text summary, .text channel, .text m.time.storedText] := by
  -- The number of the row is left open, and the other columns find their values.
  refine ⟨[("id", .null), ("customer_id", .text customer), ("summary", .text summary),
    ("channel", .text channel), ("timestamp", .text m.time.storedText)], ?_, rfl, fun key => ⟨rfl, ?_⟩⟩
  · exact mapM_eq_ok.mpr <| .cons rfl <| .cons rfl <| .cons rfl <| .cons rfl <|
      .cons (ColumnDefinition.cell_moment rfl rfl) .nil
  · intro given
    cases key <;> first | contradiction | rfl

/-- A sample subscription is stored cell by cell. -/
theorem subscriptionTable_makes (customer plan status : String) (first last : Moment) :
    subscriptionTable.Makes clock [("customer_id", .text customer), ("plan_name", .text plan),
      ("status", .text status), ("start_date", .moment first), ("end_date", .moment last)] .null fun key =>
      [key, .text customer, .text plan, .text status, .text first.time.storedText,
       .text last.time.storedText] := by
  -- As with an interaction, only the two dates are converted to text.
  refine ⟨[("id", .null), ("customer_id", .text customer), ("plan_name", .text plan),
    ("status", .text status), ("start_date", .text first.time.storedText),
    ("end_date", .text last.time.storedText)], ?_, rfl, fun key => ⟨rfl, ?_⟩⟩
  · exact mapM_eq_ok.mpr <| .cons rfl <| .cons rfl <| .cons rfl <| .cons rfl <|
      .cons (ColumnDefinition.cell_moment rfl rfl) <| .cons (ColumnDefinition.cell_moment rfl rfl) .nil
  · intro given
    cases key <;> first | contradiction | rfl

/-- A whole number that fits is stored as it is. -/
theorem ColumnDefinition.cell_integer {column : ColumnDefinition} {row : NewRow} {n : Int}
    (type : column.type = .integer) (given : row.get? column.name = some (.int n))
    (fits : fitsInt64 n = true) : column.cell clock row = .ok (column.name, .integer n) := by
  -- A number that fits is stored as such, and a column that prefers numbers has nothing to convert.
  have stored : (Value.int n).cell .integer = .ok (.integer n) := if_pos fits
  simp only [cell, given, Option.getD_some, type, stored, SemanticType.affinity]
  rfl

/-- A fraction is rounded to some number. -/
theorem Binary64.ofRatio_ne_nan (negative : Bool) (num den : Nat) : ofRatio negative num den ≠ .nan := by
  -- The result is zero, infinite or finite, wherever it is rounded.
  rw [ofRatio]
  split
  · exact Binary64.noConfusion
  · dsimp only
    split <;> split <;> exact Binary64.noConfusion

/-- A price is stored as some number. -/
theorem SampleProduct.priceCell_isNull (product : SampleProduct) : product.priceCell.isNull = false := by
  have number : Binary64.ofDecimal (.finite false product.cents (-2)) ≠ .nan := by
    rw [Binary64.ofDecimal, Binary64.ofScaled]
    split
    · exact nofun
    · split
      · exact nofun
      · split <;> exact Binary64.ofRatio_ne_nan _ _ _
  rw [priceCell]
  -- Only that it is a number matters, not which.
  generalize Binary64.ofDecimal (.finite false product.cents (-2)) = x at *
  have real : x.cell = .real x := by
    cases x <;> first | contradiction | rfl
  have kept : Affinity.numeric.store (.real x) = (Cell.real x).towardsInteger := rfl
  rw [real, kept, Cell.towardsInteger]
  split
  · split <;> rfl
  · rfl

/-- A sample product is stored cell by cell, with a number of its subscription that fits. -/
theorem SampleProduct.makes (product : SampleProduct) {number : Int} (fits : fitsInt64 number = true)
    (few : fitsInt64 product.quantity = true) :
    productTable.Makes clock (product.row (.integer number)) .null
      (product.stored (.integer number)) := by
  -- The columns are those of an interaction, with the price as a number that is not missing.
  refine ⟨[("id", .null), ("subscription_id", .integer number), ("product_name", .text product.name),
    ("sku", .text product.sku), ("quantity", .integer product.quantity), ("price", product.priceCell)],
    ?_, rfl, fun key => ⟨rfl, fun given => ?_⟩⟩
  · exact mapM_eq_ok.mpr <| .cons rfl <| .cons (ColumnDefinition.cell_integer rfl rfl fits) <|
      .cons rfl <| .cons rfl <| .cons (ColumnDefinition.cell_integer rfl rfl few) <| .cons rfl .nil
  · have priced := product.priceCell_isNull
    generalize product.priceCell = price at *
    cases key <;> first | contradiction | cases price <;> first | contradiction | rfl

/-- What a table of the domain makes of a sample row: where its key starts, and the row under a key. -/
def SampleRow.Makes (definition : TableDefinition) (clock : LocalTime) (row : SampleRow)
    (made : Cell × (Cell → Row)) : Prop :=
  ∃ new, row = .ok new ∧ definition.Makes clock new made.1 made.2

/-- The cell that stores the time some days after a reference time. -/
def LocalTime.dayCell (reference : LocalTime) (days : Int) : Cell :=
  ((reference.addDays? days).map fun time => Cell.text time.storedText).getD .null

variable {m : Moment} {row : NewRow}

/-- A moment is moved by some days where the calendar has the result. -/
theorem Value.movedByDays_eq_ok_iff {days : Int} {value : Value} :
    (Value.moment m).movedByDays days = .ok value ↔
      ∃ time, m.time.addDays? days = some time ∧ value = .moment { m with time := time } := by
  -- Only the calendar can refuse the move.
  rw [movedByDays]
  cases m.time.addDays? days with
  | none => exact iff_of_false nofun nofun
  | some time => simp [eq_comm]

/-- Whether the calendar has the time some days after a reference time. -/
def LocalTime.HasDay (reference : LocalTime) (days : Int) : Prop :=
  (reference.addDays? days).isSome = true

/-- A moment that can be moved by some days shows that the calendar has the result. -/
theorem LocalTime.hasDay_of_moved {days : Int} {value : Value}
    (moved : (Value.moment m).movedByDays days = .ok value) : m.time.HasDay days := by
  obtain ⟨time, found, -⟩ := Value.movedByDays_eq_ok_iff.mp moved
  exact Option.isSome_iff_exists.mpr ⟨time, found⟩

/-- A moment can be moved to a day that the calendar has, and its cell is that of the day. -/
theorem LocalTime.HasDay.exists_moved {days : Int} (dated : m.time.HasDay days) :
    ∃ time, (Value.moment m).movedByDays days = .ok (.moment { m with time := time }) ∧
      m.time.dayCell days = .text time.storedText := by
  -- The cell of a day is defined by the same move.
  obtain ⟨time, found⟩ := Option.isSome_iff_exists.mp dated
  refine ⟨time, Value.movedByDays_eq_ok_iff.mpr ⟨time, found, rfl⟩, ?_⟩
  rw [dayCell, found]
  rfl

/-- The values of a sample customer can be given exactly where the calendar has its day; its table stores them. -/
theorem SampleCustomer.row_dated (customer : SampleCustomer) (m : Moment) (clock : LocalTime) :
    ((∃ row, customer.row (.moment m) = .ok row) → m.time.HasDay (-(customer.age : Int))) ∧
    (m.time.HasDay (-(customer.age : Int)) → SampleRow.Makes customerTable clock
      (customer.row (.moment m)) (.text customer.id, customer.stored m.time.dayCell)) := by
  -- The only part of the row that can fail is the day, and it is the last cell that is stored.
  constructor
  · rintro ⟨row, made⟩
    obtain ⟨_, moved, -⟩ := bind_eq_ok.mp made
    exact LocalTime.hasDay_of_moved moved
  · intro dated
    obtain ⟨time, moved, cell⟩ := dated.exists_moved
    have image : customer.stored m.time.dayCell = fun key => [key, .text customer.name,
        .text customer.email, .text customer.phone, .text time.storedText] := by
      funext key
      rw [stored, cell]
    exact ⟨_, bind_eq_ok.mpr ⟨_, moved, rfl⟩, image ▸ customerTable_makes _ _ _ _ _⟩

/-- The values of a sample interaction can be given exactly where the calendar has its day; its table stores them. -/
theorem SampleInteraction.row_dated (interaction : SampleInteraction) (m : Moment) (clock : LocalTime) :
    ((∃ row, interaction.row (.moment m) = .ok row) → m.time.HasDay (-(interaction.age : Int))) ∧
    (m.time.HasDay (-(interaction.age : Int)) → SampleRow.Makes interactionTable clock
      (interaction.row (.moment m)) (.null, interaction.stored m.time.dayCell)) := by
  -- As for a customer, the day alone can fail.
  constructor
  · rintro ⟨row, made⟩
    obtain ⟨_, moved, -⟩ := bind_eq_ok.mp made
    exact LocalTime.hasDay_of_moved moved
  · intro dated
    obtain ⟨time, moved, cell⟩ := dated.exists_moved
    have image : interaction.stored m.time.dayCell = fun key => [key, .text interaction.customer,
        .text interaction.summary, .text interaction.channel, .text time.storedText] := by
      funext key
      rw [stored, cell]
    exact ⟨_, bind_eq_ok.mpr ⟨_, moved, rfl⟩, image ▸ interactionTable_makes _ _ _ _⟩

/--
The values of a sample subscription can be given exactly where the calendar has both of its days; its table stores
them.
-/
theorem SampleSubscription.row_dated (subscription : SampleSubscription) (m : Moment) (clock : LocalTime) :
    ((∃ row, subscription.row (.moment m) = .ok row) →
      m.time.HasDay subscription.firstDay ∧ m.time.HasDay subscription.lastDay) ∧
    (m.time.HasDay subscription.firstDay ∧ m.time.HasDay subscription.lastDay →
      SampleRow.Makes subscriptionTable clock (subscription.row (.moment m))
        (.null, subscription.stored m.time.dayCell)) := by
  -- A subscription has two days, and its row needs both.
  constructor
  · rintro ⟨row, made⟩
    obtain ⟨_, moved, made⟩ := bind_eq_ok.mp made
    obtain ⟨_, moved', -⟩ := bind_eq_ok.mp made
    exact ⟨LocalTime.hasDay_of_moved moved, LocalTime.hasDay_of_moved moved'⟩
  · rintro ⟨dated, dated'⟩
    obtain ⟨first, moved, cell⟩ := dated.exists_moved
    obtain ⟨last, moved', cell'⟩ := dated'.exists_moved
    have image : subscription.stored m.time.dayCell = fun key => [key, .text subscription.customer,
        .text subscription.plan, .text subscription.status, .text first.storedText,
        .text last.storedText] := by
      funext key
      rw [stored, cell, cell']
    exact ⟨_, bind_eq_ok.mpr ⟨_, moved, bind_eq_ok.mpr ⟨_, moved', rfl⟩⟩,
      image ▸ subscriptionTable_makes _ _ _ _ _⟩

end Joinery
