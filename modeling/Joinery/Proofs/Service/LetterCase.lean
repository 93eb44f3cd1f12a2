import Joinery.Proofs.Plan.Respelling
import Joinery.Proofs.Service.Running

/-! In which letter case names, keys, operators and fields are spelled plays no part in an answer. -/

namespace Joinery

variable {service : Service} {query asked : Query} {plan other : Plan} {database : Database}

/-- Causes that differ in letters are worded in the same letters. -/
theorem Rejection.Respelled.message {cause changed : Rejection} (respelled : cause.Respelled changed)
    (levels : Nat) : SameOutcome SameLetters (cause.message levels) (changed.message levels) := by
  -- Two kinds of causes quote a name, each in the letters that were given.
  cases respelled with
  | same =>
    cases cause.message levels with
    | error misuse => exact .fault misuse
    | ok text => exact .success (.refl text)
  | unknownEntity letters => exact .success ((SameLetters.refl _).append letters)
  | arrayNotAccepted field letters =>
    have complaint := ((SameLetters.refl "operator ").append letters).append
      (.refl " does not accept an array")
    exact .success ((SameLetters.refl _).append complaint)

/-- Faults that differ in letters are worded in the same letters, or have no words. -/
theorem PlanFault.Respelled.message {fault changed : PlanFault} (respelled : fault.Respelled changed)
    (levels : Nat) : SameOutcome SameLetters (fault.message levels) (changed.message levels) := by
  -- Only rejections quote anything.
  cases respelled with
  | same =>
    cases fault.message levels with
    | error misuse => exact .fault misuse
    | ok text => exact .success (.refl text)
  | rejected causes => exact causes.message levels

/-- Failures with words in the same letters differ in these words only. -/
theorem QueryResult.Retold.failed {text changed : String} (letters : SameLetters text changed)
    (warnings : List String) : QueryResult.Retold SameLetters (List.Forall₂ SameLetters)
      (.failed text warnings) (.failed changed warnings) where
  success := rfl
  data := rfl
  counts := rfl
  error := .some letters
  warnings := ⟨warnings, [], [], (List.append_nil warnings).symm, (List.append_nil warnings).symm, .nil⟩

/-- Plans in two spellings take the same records from the same rows. -/
theorem Plan.Respelled.sameRecords (respelled : plan.Respelled other) : plan.SameRecords other where
  primary := respelled.primary
  related := respelled.related
  warnings := respelled.warnings
  selectedEntities := respelled.selectedEntities
  selectedFields := respelled.selectedFields

/-- They are carried out alike, whenever they are cancelled. -/
theorem Plan.Respelled.execute (respelled : plan.Respelled other) (database : Database)
    (signal : CancelSignal) : other.execute database signal = plan.execute database signal := by
  -- The values are fetched by the types of the entities, which are the same.
  have types : other.resultTypes = plan.resultTypes := by
    rw [Plan.resultTypes, Plan.resultTypes, respelled.primary, respelled.related]
  have ran : other.run database = plan.run database := by
    simp only [Plan.run, respelled.statement, respelled.parameters, types]
  simp only [Plan.execute, ran]

/-- They come to results that differ in the spelling of what was left out. -/
theorem Service.carryOut_respelled (service : Service) (respelled : plan.Respelled other)
    (signal : CancelSignal) :
    SameOutcome (QueryResult.Retold SameLetters (List.Forall₂ SameLetters))
      (service.carryOut plan signal) (service.carryOut other signal) := by
  rw [Service.carryOut, Service.carryOut, respelled.execute]
  cases plan.execute service.database signal with
  | error fault =>
    have told : other.warningTexts = plan.warningTexts := by
      rw [Plan.warningTexts, Plan.warningTexts, respelled.warnings]
    have worded : other.faultMessage fault = plan.faultMessage fault := by
      simp only [Plan.faultMessage, Plan.executionError, Plan.joined, respelled.primary,
        respelled.related]
    dsimp only [Plan.answer]
    rw [told, worded]
    exact .success (.failed (.refl _) _)
  | ok rows =>
    -- A success has no error to tell in any words.
    exact respelled.sameRecords.materialize respelled.rejectedFields (rows.map .map)

/-- A query in other letters is answered alike, but for the letters of errors and of left out fields. -/
theorem Query.Retold.execute_respelled (retold : query.Retold .letterCase asked)
    (signal : CancelSignal) :
    SameOutcome (QueryResult.Retold SameLetters (List.Forall₂ SameLetters))
      (service.execute query signal) (service.execute asked signal) := by
  -- Both are planned alike, and a plan in other letters is carried out alike.
  have plans := service.registry.plan_respelled retold
  rw [Service.execute, Service.execute]
  generalize service.registry.plan query = first, service.registry.plan asked = second at plans
  cases plans with
  | fault faults =>
    exact (faults.message _).bind fun _ _ letters => .success (.failed letters [])
  | success respelled => exact service.carryOut_respelled respelled signal

/--
In which letter case a query is spelled plays no part in its plan or its answer.

The steps build queries that are planned to the same statement, with the same values, entities, caps
and warnings, or are refused alike. Their results have the same success, records and numbers of
records under every signal. Only errors and left out fields are told in the letters of the caller.
-/
theorem Service.letter_case_ignored (service : Service) {steps others : List QueryStep}
    (respelled : List.Forall₂ (QueryStep.Retold .letterCase) steps others) :
    SameOutcome (fun query other =>
        LikeOutcome PlanFault.Respelled Plan.Respelled (service.registry.plan query)
          (service.registry.plan other) ∧
        ∀ signal, SameOutcome (QueryResult.Retold SameLetters (List.Forall₂ SameLetters))
          (service.execute query signal) (service.execute other signal))
      (Query.empty.applyAll steps) (Query.empty.applyAll others) := by
  -- The steps build two queries that are retold, or fail alike.
  have built := (Query.Retold.empty .letterCase).applyAll respelled
  generalize Query.empty.applyAll steps = first, Query.empty.applyAll others = second at built
  cases built with
  | fault cause => exact .fault cause
  | success retold =>
    exact .success ⟨service.registry.plan_respelled retold, retold.execute_respelled⟩

/-- The steps for two owners and the names of their grown pets, in small letters. -/
def smallSteps : List QueryStep :=
  [.fromEntity (.text "owner"),
    .whereFilter (.map [("zip", .int 1), ("id", .map [("$in", .list [.text "A", .text "B"])])]),
    .withRelated (.text "pet") (.map [("age", .map [("$gte", .int 3)]), ("$limit", .int 0)])
      (.text "owner"),
    .select ["owner", "pet"], .selectFields "pet" ["id", "name"]]

/-- The same steps in capital letters; the identifiers of the owners stay as they are. -/
def capitalSteps : List QueryStep :=
  [.fromEntity (.text "OWNER"),
    .whereFilter (.map [("ZIP", .int 1), ("ID", .map [("$IN", .list [.text "A", .text "B"])])]),
    .withRelated (.text "PET") (.map [("AGE", .map [("$GTE", .int 3)]), ("$LIMIT", .int 0)])
      (.text "OWNER"),
    .select ["OWNER", "PET"], .selectFields "PET" ["ID", "NAME"]]

/-- The query of the small letters. -/
def smallQuery : Query := (Query.empty.applyAll smallSteps).toOption.get (by decide +kernel)

/-- The plan of that query. -/
def smallPlan : Plan := (petService.registry.plan smallQuery).toOption.get (by decide +kernel)

/-- The owners and their pets are found in capital letters as in small ones. -/
theorem Service.pets_in_capitals :
    List.Forall₂ (QueryStep.Retold .letterCase) smallSteps capitalSteps ∧
    ∃ query asked result changed, Query.empty.applyAll smallSteps = .ok query ∧
      Query.empty.applyAll capitalSteps = .ok asked ∧
      petService.execute query .quiet = .ok result ∧ result.success = true ∧
      petService.execute asked .quiet = .ok changed ∧
      result.Retold SameLetters (List.Forall₂ SameLetters) changed := by
  -- All words of the query are compared in one evaluation.
  have letters : SameLetters "owner" "OWNER" ∧ SameLetters "pet" "PET" ∧ SameLetters "id" "ID" ∧
      SameLetters "zip" "ZIP" ∧ SameLetters "name" "NAME" ∧ SameLetters "age" "AGE" ∧
      SameLetters "$in" "$IN" ∧ SameLetters "$gte" "$GTE" ∧ SameLetters "$limit" "$LIMIT" := by
    decide +kernel
  obtain ⟨owner, pet, id, zip, name, age, among, atLeast, limit⟩ := letters
  have owners : RespelledKeys
      [("zip", .int 1), ("id", .map [("$in", .list [.text "A", .text "B"])])]
      [("ZIP", .int 1), ("ID", .map [("$IN", .list [.text "A", .text "B"])])] :=
    .cons ⟨zip, .same _⟩ (.cons ⟨id, .operators (.cons ⟨among, rfl⟩ .nil)⟩ .nil)
  have pets : RespelledKeys [("age", .map [("$gte", .int 3)]), ("$limit", .int 0)]
      [("AGE", .map [("$GTE", .int 3)]), ("$LIMIT", .int 0)] :=
    .cons ⟨age, .operators (.cons ⟨atLeast, rfl⟩ .nil)⟩ (.cons ⟨limit, .same _⟩ .nil)
  -- Each step is the step in capitals, word by word.
  have respelled : List.Forall₂ (QueryStep.Retold .letterCase) smallSteps capitalSteps :=
    .cons (.fromEntity (.text owner)) (.cons (.whereFilter (.keys owners))
      (.cons (.withRelated (.text pet) (.keys pets) (.text owner))
        (.cons (.select (.cons owner (.cons pet .nil)))
          (.cons (.selectFields pet (.cons id (.cons name .nil))) .nil))))
  -- The query in small letters is computed.
  have built : Query.empty.applyAll smallSteps = .ok smallQuery := eq_ok_get _
  have planned : petService.registry.plan smallQuery = .ok smallPlan := eq_ok_get _
  have executed : petService.execute smallQuery .quiet = .ok
      ((smallPlan.answerInOrder petService.database).toOption.get (by decide +kernel)) :=
    (execute_eq_answerInOrder planned (by decide +kernel)).trans (eq_ok_get _)
  -- The general theorem gives the query in capitals and its result.
  obtain ⟨asked, builtToo, _, answers⟩ := (letter_case_ignored petService respelled).exists_ok built
  obtain ⟨changed, executedToo, retold⟩ := (answers .quiet).exists_ok executed
  exact ⟨respelled, _, asked, _, changed, built, builtToo, executed, by decide +kernel, executedToo,
    retold⟩

end Joinery
