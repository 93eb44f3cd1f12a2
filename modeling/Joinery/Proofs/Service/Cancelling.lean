import Joinery.Proofs.Database.Checking
import Joinery.Proofs.Service.Running

/-! A cancelled query is answered by its cancellation, but for one kind of fault. -/

namespace Joinery

section Faults

variable {described : DatabaseFault → Prop}

/-- A demand fails with its own fault. -/
theorem FailsOnly.demand {holds : Bool} {fault : DatabaseFault} (known : described fault) :
    FailsOnly described (Joinery.demand holds fault) := by
  -- It succeeds when it holds.
  cases holds with
  | true => exact .ok ()
  | false => exact .error known

/-- A check of a list fails as the check of an item does. -/
theorem FailsOnly.checkAll {α : Type} {check : α → Except DatabaseFault Unit}
    (each : ∀ item, FailsOnly described (check item)) (items : List α) :
    FailsOnly described (Joinery.checkAll check items) := by
  -- The items are checked one after another.
  induction items with
  | nil => exact .ok ()
  | cons first rest ih => exact .bind (each first) fun _ _ => ih

/-- The check of an order reads what is written, and fetches nothing. -/
theorem Join.checkOrder_fails (join : Join) :
    FailsOnly (fun fault => fault.isFetching = false) join.checkOrder := by
  -- Without a ranking there is no order, and else its text is read.
  unfold checkOrder
  split
  · exact .ok ()
  · rename_i ranking _
    cases readOrder ranking.order with
    | error fault => exact .error rfl
    | ok terms => exact .ok ()

/-- A table that is not there is missed before anything is fetched. -/
theorem checkTable_fails (database : Database) (table : String) :
    FailsOnly (fun fault => fault.isFetching = false) (checkTable database table) :=
  .demand rfl

/-- A column that is not there is missed before anything is fetched. -/
theorem checkColumn_fails (sources : List Relation) (ref : ColumnRef) :
    FailsOnly (fun fault => fault.isFetching = false) (checkColumn sources ref) :=
  .demand rfl

/-- So are the columns inside a ranking. -/
theorem Join.checkRanking_fails (database : Database) (join : Join) :
    FailsOnly (fun fault => fault.isFetching = false) (join.checkRanking database) := by
  -- Both checks of a column are demands.
  have plain (relation : Relation) (column : String) :
      FailsOnly (fun fault => fault.isFetching = false) (checkPlainColumn relation column) :=
    .demand rfl
  have term (relation : Relation) (term : OrderTerm) :
      FailsOnly (fun fault => fault.isFetching = false) (checkTerm relation term) := .demand rfl
  unfold checkRanking
  split
  · exact .ok ()
  · refine .bind (plain _ _) fun _ _ => ?_
    refine .bind (.checkAll (term _) _) fun _ _ => ?_
    exact .checkAll (fun _ => plain _ _) _

/-- So are the columns of a join. -/
theorem checkJoin_fails (sources : List Relation) (numbered : Join × Nat) :
    FailsOnly (fun fault => fault.isFetching = false) (checkJoin sources numbered) := by
  -- The two keys are checked before the columns of the predicates.
  refine .bind (checkColumn_fails _ _) fun _ _ => ?_
  refine .bind (checkColumn_fails _ _) fun _ _ => ?_
  exact .checkAll (fun _ => checkColumn_fails _ _) _

/-- Nothing is fetched while the names of a statement are looked for. -/
theorem Statement.check_fails (statement : Statement) (database : Database)
    (parameters : List Parameter) :
    FailsOnly (fun fault => fault.isFetching = false) (statement.check database parameters) := by
  -- The parts of the check fail one after the other.
  unfold check
  refine .bind (.checkAll Join.checkOrder_fails _) fun _ _ => ?_
  refine .bind (.checkAll (checkTable_fails database) _) fun _ _ => ?_
  refine .bind (.checkAll (Join.checkRanking_fails database) _) fun _ _ => ?_
  refine .bind (.checkAll (fun _ => checkColumn_fails _ _) _) fun _ _ => ?_
  refine .bind (.checkAll (fun _ => checkColumn_fails _ _) _) fun _ _ => ?_
  refine .bind (.checkAll (checkJoin_fails _) _) fun _ _ => ?_
  refine .bind (.checkAll (checkColumn_fails _) _) fun _ _ => ?_
  exact .demand rfl

/-- A cell that is not fetched as a value of a meaning is none of its moments. -/
theorem Cell.fetch_fails (type : Option SemanticType) (cell : Cell) :
    FailsOnly (fun fault => fault.isFetching = true) (cell.fetch type) := by
  -- Only values that are to be moments can fail in the fetching.
  unfold Cell.fetch
  split
  · exact .ok _
  · unfold Cell.toMoment
    split
    · exact .ok _
    · split
      · exact .ok _
      · exact .error rfl
    · exact .error rfl
  · exact .ok _

/-- A row that is not fetched has a cell that is not fetched. -/
theorem fetchRow_fails (columns : List SelectedColumn) (types : Entries SemanticType)
    (sources : List Relation) (joined : JoinedRow) :
    FailsOnly (fun fault => fault.isFetching = true) (fetchRow columns types sources joined) := by
  -- The row is fetched cell by cell.
  refine .bind (.mapM (fun selected => ?_) columns) fun pairs _ => .ok _
  exact .bind (Cell.fetch_fails _ _) fun value _ => .ok _

variable {plan : Plan} {database : Database} {fault : DatabaseFault}

/-- A fault shows while values are fetched exactly when everything in the statement was found. -/
theorem Plan.isFetching_iff (failed : plan.run database = .error fault) :
    fault.isFetching = true ↔ plan.statement.check database plan.parameters = .ok () := by
  cases checked : plan.statement.check database plan.parameters with
  | error missing =>
    -- The check ends the run with its own fault.
    have same : plan.run database = .error missing := by
      rw [run, checked]
      rfl
    obtain rfl : missing = fault := Except.error.inj (same.symm.trans failed)
    simp [plan.statement.check_fails database plan.parameters missing checked]
  | ok found =>
    rw [run, checked] at failed
    have fetching := FailsOnly.mapM (fetchRow_fails plan.statement.columns plan.resultTypes
      (plan.statement.sources database plan.parameters))
      (plan.statement.resultRows database plan.parameters) fault failed
    simp [fetching]

/-- A text is not the one that it differs from at a place of its beginning. -/
theorem append_ne_of_differ {front whole : String} (place : Nat)
    (within : place < front.toList.length)
    (differ : front.toList[place]? ≠ whole.toList[place]?) (back : String) :
    front ++ back ≠ whole := by
  -- The place lies in the beginning, which the longer text begins with too.
  rintro rfl
  exact differ (by rw [String.toList_append, List.getElem?_append_left within])

/-- What is said about values that are not fetched is not what is said about a cancellation. -/
theorem Plan.executionError_ne_cancellation (plan : Plan) (fetching : fault.isFetching = true)
    (cancellation : Cancellation) :
    (plan.executionError fault).message ≠ cancellation.message := by
  simp only [ExecutionError.message, executionError]
  split
  · -- The fault alone begins with the name of its kind.
    cases fault with
    | momentKind => cases cancellation <;> decide
    | momentText cause =>
      refine append_ne_of_differ 0 (by decide) ?_ _
      cases cancellation <;> decide
    | _ => contradiction
  · -- With the entities, the texts part after their first word.
    simp only [String.append_assoc]
    refine append_ne_of_differ 6 (by decide) ?_ _
    cases cancellation <;> decide

end Faults

variable {service : Service} {query : Query} {plan : Plan}

/-- A plan that is cancelled while its statement is executed reports it, but for faults in fetched values. -/
theorem Service.carryOut_raisedLater (service : Service) (plan : Plan) :
    service.carryOut plan .raisedLater =
      match plan.run service.database with
      | .ok _ => .ok (.failed Cancellation.duringExecution.message plan.warningTexts)
      | .error fault =>
        if fault.isFetching then .ok (.failed (plan.executionError fault).message plan.warningTexts)
        else .ok (.failed Cancellation.duringExecution.message plan.warningTexts) := by
  -- The plan is run first, and the signal is looked at where no error has come from the fetching.
  simp only [carryOut, Plan.answer, Plan.execute, CancelSignal.settle]
  cases plan.run service.database with
  | ok rows => rfl
  | error fault => cases fetching : fault.isFetching <;> simp [fetching, Plan.faultMessage]

/--
A query that was cancelled before it began reports its cancellation, whatever the database would do.

So does one that is cancelled while its statement is executed, exactly when the statement comes to its rows or
the database refuses it. A value that cannot be fetched is reported in place of the cancellation.
-/
theorem Service.cancellation_reported_iff (planned : service.registry.plan query = .ok plan) :
    service.execute query .raised =
      .ok (.failed Cancellation.beforeExecution.message plan.warningTexts) ∧
    (service.execute query .raisedLater =
        .ok (.failed Cancellation.duringExecution.message plan.warningTexts) ↔
      (∃ rows, plan.run service.database = .ok rows) ∨
        ∃ fault, plan.statement.check service.database plan.parameters = .error fault) ∧
    ∀ fault, plan.run service.database = .error fault →
      plan.statement.check service.database plan.parameters = .ok () →
        service.execute query .raisedLater =
          .ok (.failed (plan.executionError fault).message plan.warningTexts) := by
  have later : service.execute query .raisedLater = service.carryOut plan .raisedLater := by
    simp only [execute, planned]
  refine ⟨?_, ?_, fun fault failed found => ?_⟩
  · simp only [execute, planned, carryOut, Plan.answer, Plan.execute, CancelSignal.settle]
    rfl
  · rw [later, carryOut_raisedLater]
    cases ran : plan.run service.database with
    | ok rows => simp
    | error fault =>
      -- What fails was refused by the check, or else shows in a value and is reported itself.
      have fetching := Plan.isFetching_iff ran
      cases checked : plan.statement.check service.database plan.parameters with
      | error missing =>
        have refused : fault.isFetching = false := by
          rw [checked] at fetching
          simpa using fetching
        simp [refused]
      | ok _ =>
        have shown : fault.isFetching = true := fetching.mpr checked
        have apart := plan.executionError_ne_cancellation shown .duringExecution
        simp [shown, QueryResult.failed, apart]
  · have shown : fault.isFetching = true := (Plan.isFetching_iff failed).mpr found
    simp [later, carryOut_raisedLater, failed, shown]

/-- The query of all pets reports its cancellation, with its tables and without them. -/
theorem petQuery_cancellation_reported :
    petService.registry.plan (petQuery none) = .ok petPlan ∧
    petService.execute (petQuery none) .raised =
      .ok (.failed Cancellation.beforeExecution.message []) ∧
    petService.execute (petQuery none) .raisedLater =
      .ok (.failed Cancellation.duringExecution.message []) ∧
    ({ petService with database := .empty } : Service).execute (petQuery none) .raisedLater =
      .ok (.failed Cancellation.duringExecution.message []) := by
  -- Such a plan has no warnings, so nothing is appended to the messages.
  have untold : petPlan.warningTexts = [] := by decide +kernel
  obtain ⟨raised, later, _⟩ := Service.cancellation_reported_iff petPlan_planned
  have planned : ({ petService with database := .empty } : Service).registry.plan (petQuery none) = .ok petPlan :=
    petPlan_planned
  obtain ⟨_, refused, _⟩ := Service.cancellation_reported_iff planned
  rw [untold] at raised later refused
  refine ⟨petPlan_planned, raised, later.mpr (.inl ?_), refused.mpr (.inr ?_)⟩
  -- With the tables the statement has rows.
  · obtain ⟨_, rows, _, answered⟩ := Service.answered_of_execute petResult_executed rfl
    obtain rfl := Except.ok.inj (petPlan_planned.symm.trans answered.planned)
    exact ⟨rows, answered.ran⟩
  -- Without them it has a fault, which is not one of fetching.
  · exact ⟨.noTable "owner", by decide +kernel⟩

/-- The document of visits, each one on a day. -/
def stayDocument : Value :=
  .map [("entities", .map [
    ("Visit", entityDocument "visit" [("id", "integer"), ("day", "datetime")] ["id"] .null [])])]

/-- The registry of visits. -/
def stayRegistry : Registry := (Registry.ofDocument stayDocument).toOption.get (by decide +kernel)

/-- One visit, on a day that is none. -/
def stayService : Service :=
  ⟨stayRegistry, ⟨[⟨"visit",
    ⟨[⟨"id", .numeric⟩, ⟨"day", .text⟩], [[.integer 1, .text "soon"]], by decide⟩⟩], by decide⟩, 900⟩

/-- A query of that visit. -/
def stayQuery : Query where
  primary := .text "Visit"
  filter := some ⟨[("id", .int 1)], none⟩
  related := []
  selectedEntities := []
  selectedFields := []
  maxRows := .null

/-- The plan of the query of that visit. -/
def stayPlan : Plan := (stayRegistry.plan stayQuery).toOption.get (by decide +kernel)

/-- A query that is cancelled while a day that is none is fetched reports the day, not its cancellation. -/
theorem Service.cancellation_not_reported :
    ¬ (∀ (service : Service) query plan signal, service.registry.plan query = .ok plan →
      signal ≠ .quiet → ∃ cancellation warnings,
        service.execute query signal = .ok (.failed (Cancellation.message cancellation) warnings)) ∧
    Registry.ofDocument stayDocument = .ok stayService.registry ∧
    stayService.registry.plan stayQuery = .ok stayPlan ∧
    stayService.execute stayQuery .raisedLater = .ok (.failed
      "Query on Visit (joins: none) failed: ValueError: Invalid isoformat string: 'soon'" []) := by
  have read : Registry.ofDocument stayDocument = .ok stayService.registry :=
    eq_ok_get (by decide +kernel)
  have planned : stayService.registry.plan stayQuery = .ok stayPlan := eq_ok_get _
  -- The one row comes in order, and its day cannot be fetched.
  have ran : stayPlan.run stayService.database = .error (.momentText (.malformed "soon")) := by
    rw [Plan.run, Statement.resultRows_of_sorted (by decide +kernel)]
    decide +kernel
  have shown : stayService.execute stayQuery .raisedLater = .ok (.failed
      "Query on Visit (joins: none) failed: ValueError: Invalid isoformat string: 'soon'" []) := by
    simp only [execute, planned, carryOut_raisedLater, ran]
    decide +kernel
  refine ⟨fun reported => ?_, read, planned, shown⟩
  obtain ⟨cancellation, warnings, told⟩ := reported _ _ _ .raisedLater planned (by decide)
  have same := shown.symm.trans told
  cases cancellation <;> simp [QueryResult.failed, Cancellation.message] at same

end Joinery
