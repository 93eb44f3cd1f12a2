import Joinery.Customers.SampleData
import Joinery.Database.Session

/-! An empty customer table is filled with the sample data, in a session of its own. -/

namespace Joinery

/-- A point in time or a day, moved by some days. -/
def Value.movedByDays (value : Value) (days : Int) : Except Misuse Value :=
  match value with
  | .moment m =>
    match m.time.addDays? days with
    | some time => .ok (.moment { m with time := time })
    | none => .error .unbounded
  | .date d =>
    match LocalTime.addDays? ⟨d, .midnight⟩ days with
    | some time => .ok (.date time.date)
    | none => .error .unbounded
  | _ => .error .wrongKind

/-- A row with its dates counted from a reference time, ready to be stored. -/
abbrev SampleRow := Except Misuse NewRow

/-- The row of a sample customer. -/
def SampleCustomer.row (customer : SampleCustomer) (now : Value) : SampleRow := do
  return [("customer_id", .text customer.id), ("name", .text customer.name),
    ("email", .text customer.email), ("phone", .text customer.phone),
    ("created_at", ← now.movedByDays (-(customer.age : Int)))]

/-- The row of a sample interaction. -/
def SampleInteraction.row (interaction : SampleInteraction) (now : Value) : SampleRow := do
  return [("customer_id", .text interaction.customer), ("summary", .text interaction.summary),
    ("channel", .text interaction.channel),
    ("timestamp", ← now.movedByDays (-(interaction.age : Int)))]

/-- The row of a sample subscription. -/
def SampleSubscription.row (subscription : SampleSubscription) (now : Value) : SampleRow := do
  return [("customer_id", .text subscription.customer), ("plan_name", .text subscription.plan),
    ("status", .text subscription.status),
    ("start_date", ← now.movedByDays subscription.firstDay),
    ("end_date", ← now.movedByDays subscription.lastDay)]

/-- The row of a sample product on the subscription with the given number. -/
def SampleProduct.row (product : SampleProduct) (subscription : Cell) : NewRow :=
  [("subscription_id", subscription.toValue), ("product_name", .text product.name),
   ("sku", .text product.sku), ("quantity", .int product.quantity),
   ("price", .decimal (.finite false product.cents (-2)))]

/-- Stores a sample row for a session; the answer has its key. -/
def SessionWork.insertSample (definition : TableDefinition) (host : Host) (row : SampleRow) :
    SessionWork Cell :=
  match row with
  | .ok row => insert definition host row
  | .error misuse => throw (.misuse misuse)

/-- Stores sample rows one after the other. -/
def SessionWork.insertSamples (definition : TableDefinition) (host : Host) :
    List SampleRow → SessionWork Unit
  | [] => return ()
  | row :: rest => do
    let _ ← insertSample definition host row
    insertSamples definition host rest

/-- Stores a sample subscription and then its products under the number that it was given. -/
def SessionWork.insertSubscription (now : Value) (host : Host)
    (subscription : SampleSubscription) : SessionWork Unit := do
  let number ← insertSample subscriptionTable host (subscription.row now)
  insertSamples productTable host
    (subscription.products.map fun product => .ok (product.row number))

/-- Stores all sample data. -/
def SessionWork.insertSampleData (now : Value) (host : Host) : SessionWork Unit := do
  insertSamples customerTable host (sampleCustomers.map (·.row now))
  insertSamples interactionTable host (sampleInteractions.map (·.row now))
  sampleSubscriptions.forM (insertSubscription now host)

/--
Fills the database with the sample data, with dates around a reference time or else the present.

Nothing happens when there are customers already; the answer tells whether something happened. A fault on the way
gives up everything that was stored before it.
-/
def Database.seed (database : Database) (now : Value) (host : Host) :
    Database × Except StorageFault Bool :=
  database.inSession do
    let customers ← SessionWork.count customerTable.name
    if customers ≠ 0 then return false
    SessionWork.insertSampleData (if now.truthy then now else .moment ⟨host.clock, none⟩) host
    SessionWork.commit
    return true

/--
Creates the tables of the domain and fills them with the sample data if that is asked for.

The tables stay when they cannot be filled.
-/
def Database.setUp (database : Database) (seeding : Bool) (host : Host) :
    Database × Except StorageFault Unit :=
  let created := database.createCustomerTables
  if seeding then
    let (filled, answer) := created.seed .null host
    (filled, answer.map fun _ => ())
  else (created, .ok ())

end Joinery
