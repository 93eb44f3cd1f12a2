import Joinery.Proofs.Plan.Parts
import Joinery.Service

/-! A query that comes to an answer was planned, carried out and gathered without a fault. -/

namespace Joinery

variable {plan : Plan} {database : Database} {service : Service} {query : Query}
  {signal : CancelSignal} {result : QueryResult}

/-- Rows are left only when the statement was carried out, and no signal was raised at any time. -/
theorem CancelSignal.settle_eq_ok_iff {ran : Except DatabaseFault (List FetchedRow)}
    {rows : List FetchedRow} : signal.settle ran = .ok rows ↔ signal = .quiet ∧ ran = .ok rows := by
  -- A fault stays a fault, and a raised signal puts one in the place of rows.
  cases signal with
  | quiet => cases ran <;> simp [settle]
  | raised => simp [settle]
  | raisedLater =>
    cases ran with
    | ok found => simp [settle]
    | error fault =>
      simp only [settle]
      split <;> simp

/-- Rows come out of an execution only when the statement was carried out undisturbed. -/
theorem Plan.run_of_execute {rows : List FetchedRow}
    (carried : plan.execute database signal = .ok rows) : plan.run database = .ok rows :=
  (CancelSignal.settle_eq_ok_iff.mp carried).2

/-- Rows come out of an execution only under a signal that is never raised. -/
theorem Plan.quiet_of_execute {rows : List FetchedRow}
    (carried : plan.execute database signal = .ok rows) : signal = .quiet :=
  (CancelSignal.settle_eq_ok_iff.mp carried).1

/-- How the answer to a query comes about: every row of the statement is fetched and gathered. -/
structure Service.Answered (service : Service) (query : Query) (plan : Plan)
    (rows : List FetchedRow) (gathering : Gathering) (result : QueryResult) : Prop where
  /-- The query has the plan. -/
  planned : service.registry.plan query = .ok plan
  /-- Everything that the statement names is found. -/
  checked : plan.statement.check service.database plan.parameters = .ok ()
  /-- The rows of the statement are fetched one by one. -/
  fetched : List.Forall₂ (fun joined row => fetchRow plan.statement.columns plan.resultTypes
      (plan.statement.sources service.database plan.parameters) joined = .ok row)
    (plan.statement.resultRows service.database plan.parameters) rows
  /-- The fetched rows are gathered. -/
  gathered : (Gathering.start plan).addAll plan (rows.map .map) = .ok gathering
  /-- The result is made of what was gathered. -/
  result_eq : result = gathering.toResult plan

/-- A query that comes to an answer was carried out without a fault. -/
theorem Service.answered_of_execute (executed : service.execute query signal = .ok result)
    (succeeded : result.success = true) :
    ∃ plan rows gathering, service.Answered query plan rows gathering result := by
  -- Every fault on the way makes a result that is no success.
  simp only [Service.execute] at executed
  cases planned : service.registry.plan query with
  | error fault =>
    simp only [planned] at executed
    obtain ⟨message, _, same⟩ := bind_eq_ok.mp executed
    cases same
    simp [QueryResult.failed] at succeeded
  | ok plan =>
    simp only [planned, Service.carryOut, Plan.answer] at executed
    cases carried : plan.execute service.database signal with
    | error fault =>
      simp only [carried, Except.ok.injEq] at executed
      subst executed
      simp [QueryResult.failed] at succeeded
    | ok rows =>
      simp only [carried, Plan.materialize] at executed
      obtain ⟨gathering, gathered, same⟩ := bind_eq_ok.mp executed
      cases same
      obtain ⟨_, checked, fetched⟩ := bind_eq_ok.mp (Plan.run_of_execute carried)
      exact ⟨plan, rows, gathering, planned, checked, mapM_eq_ok.mp fetched, gathered, rfl⟩

/-- The warnings of a result are those of its plan, and with an answer the fields that were left out. -/
theorem Service.warnings_of_execute (service : Service)
    (planned : service.registry.plan query = .ok plan)
    (executed : service.execute query signal = .ok result) :
    result.warnings = plan.warningTexts ++
      if result.success then plan.rejectedFields.map ignoredFieldWarning else [] := by
  simp only [execute, planned, carryOut, Plan.answer] at executed
  split at executed
  · cases executed
    simp [QueryResult.failed]
  · -- Only what was gathered makes an answer.
    obtain ⟨gathering, _, same⟩ := bind_eq_ok.mp executed
    cases same
    rfl

/-- Only a query under a signal that is never raised comes to an answer. -/
theorem Service.quiet_of_success (executed : service.execute query signal = .ok result)
    (succeeded : result.success = true) : signal = .quiet := by
  -- What fails in planning or in the database leaves a result that is no success.
  simp only [Service.execute] at executed
  split at executed
  · obtain ⟨message, _, same⟩ := bind_eq_ok.mp executed
    cases same
    contradiction
  · simp only [Service.carryOut, Plan.answer] at executed
    split at executed
    · cases executed
      contradiction
    · rename_i rows carried
      exact Plan.quiet_of_execute carried

/-- The statement of a query that comes to an answer is carried out to its rows. -/
theorem Service.Answered.ran {rows : List FetchedRow} {gathering : Gathering}
    (answered : service.Answered query plan rows gathering result) :
    plan.run service.database = .ok rows :=
  bind_eq_ok.mpr ⟨(), answered.checked, mapM_eq_ok.mpr answered.fetched⟩

/-- An answer that comes about is the answer of the service. -/
theorem Service.Answered.executed {rows : List FetchedRow} {gathering : Gathering}
    (answered : service.Answered query plan rows gathering result) :
    service.execute query .quiet = .ok result := by
  -- The statement is carried out to the rows, and the rows are gathered.
  simp only [Service.execute, answered.planned, Service.carryOut, Plan.execute, CancelSignal.settle,
    answered.ran]
  exact bind_eq_ok.mpr ⟨gathering, answered.gathered, congrArg Except.ok answered.result_eq.symm⟩

end Joinery
