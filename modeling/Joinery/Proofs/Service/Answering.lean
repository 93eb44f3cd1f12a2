import Joinery.Proofs.Plan.Faults
import Joinery.Proofs.Result.Fetched
import Joinery.Proofs.Service.Running

/-!
Every proper query is answered, wholly or with an error.

It is not when its cap cannot be written, or when a complaint shows a value that cannot be shown.
-/

namespace Joinery

/-- A result that says why a query failed, and nothing about any record. -/
structure QueryResult.Failed (result : QueryResult) : Prop where
  /-- It is no success. -/
  unsuccessful : result.success = false
  /-- It says why. -/
  told : ∃ text, result.error = some text ∧ text ≠ ""
  /-- It has no records. -/
  no_data : result.data = []
  /-- It counts no records. -/
  no_counts : result.counts = []

/-- A result that says everything about the records of a query: no row and no entity is left out. -/
structure Service.Complete (service : Service) (query : Query) (result : QueryResult) : Prop where
  /-- It is a success. -/
  successful : result.success = true
  /-- There is no error. -/
  no_error : result.error = none
  /-- All rows of the statement are gathered, and every entity that is kept has its part. -/
  whole : ∃ plan rows gathering, service.Answered query plan rows gathering result ∧
    result.data.keys = plan.keptKeys ∧ result.counts.keys = plan.keptKeys

/-- Every complaint of a database says something. -/
theorem DatabaseFault.message_ne_empty (fault : DatabaseFault) : fault.message ≠ "" := by
  unfold DatabaseFault.message
  split <;> repeat first | decide | refine append_ne_empty ?_ _

/-- Every fault in the execution of a plan is told in words. -/
theorem Plan.faultMessage_ne_empty (plan : Plan) (fault : ExecutionFault) :
    plan.faultMessage fault ≠ "" := by
  cases fault with
  | cancelled cancellation =>
    simp only [faultMessage]
    cases cancellation <;> decide
  | failed fault =>
    -- A plan without a name for its primary entity leaves the words to the database.
    simp only [faultMessage, ExecutionError.message, executionError]
    split
    · exact fault.message_ne_empty
    · repeat first | decide | refine append_ne_empty ?_ _

variable {service : Service} {query : Query} {signal : CancelSignal} {result : QueryResult}

/-- A result of words is one of a failed query. -/
theorem QueryResult.failed_failed {text : String} (filled : text ≠ "") (warnings : List String) :
    (failed text warnings).Failed :=
  ⟨rfl, ⟨text, rfl, filled⟩, rfl, rfl⟩

/-- A result that is a success is complete. -/
theorem Service.complete_of_success (executed : service.execute query signal = .ok result)
    (succeeded : result.success = true) : service.Complete query result := by
  -- A success was gathered from rows, and its answer is made of what was gathered.
  obtain ⟨plan, rows, gathering, answered⟩ := answered_of_execute executed succeeded
  have parts := Gathering.keys_toResult answered.gathered
  have made := answered.result_eq
  exact ⟨succeeded, made ▸ rfl, plan, rows, gathering, answered, made ▸ parts.1, made ▸ parts.2⟩

/-- A result that is no success says why, and nothing else. -/
theorem Service.failed_of_no_success (executed : service.execute query signal = .ok result)
    (unsuccessful : result.success = false) : result.Failed := by
  -- Only gathered rows make a success, so the result was made of a fault.
  simp only [execute] at executed
  split at executed
  · obtain ⟨text, told, same⟩ := bind_eq_ok.mp executed
    cases same
    exact QueryResult.failed_failed (PlanFault.message_ne_empty told) _
  · rename_i plan planned
    simp only [carryOut, Plan.answer] at executed
    split at executed
    · cases executed
      exact QueryResult.failed_failed (plan.faultMessage_ne_empty _) _
    · obtain ⟨gathering, _, same⟩ := bind_eq_ok.mp executed
      cases same
      contradiction

/-- A plan is always carried out to a result, whatever the database holds and the signal says. -/
theorem Service.exists_carryOut (service : Service) (plan : Plan) (signal : CancelSignal) :
    ∃ result, service.carryOut plan signal = .ok result := by
  simp only [carryOut, Plan.answer]
  split
  · exact ⟨_, rfl⟩
  · rename_i rows carried
    obtain ⟨_, _, fetched⟩ := bind_eq_ok.mp (Plan.run_of_execute carried)
    -- Each row was fetched, so nothing in it stops the gathering.
    have telling : ∀ row ∈ rows, Entries.Telling row := by
      intro row member
      obtain ⟨joined, _, built⟩ := exists_left_of_aligned (mapM_eq_ok.mp fetched) member
      exact fetchRow_telling built
    obtain ⟨gathering, gathered⟩ := Gathering.exists_addAll telling (Gathering.start plan)
    exact ⟨gathering.toResult plan, bind_eq_ok.mpr ⟨gathering, gathered, rfl⟩⟩

/-- A fault that is told from the filters of a query is answered, or something in a filter cannot be shown. -/
theorem PlanFault.ToldFrom.message {fault : PlanFault} (told : fault.ToldFrom query.Compares)
    (levels : Nat) :
    (∃ text, fault.message levels = .ok text) ∨
      ∃ misuse value, fault.message levels = .error misuse ∧ query.Compares value ∧
        value.Unshown levels misuse := by
  -- Words that cannot be made are kept back by a value that is shown in them.
  cases worded : fault.message levels with
  | ok text => exact .inl ⟨text, rfl⟩
  | error misuse =>
    obtain ⟨shown, given, unshown⟩ := PlanFault.message_unshown told.worded misuse worded
    obtain ⟨value, compared, inside⟩ := told.shows shown given
    exact .inr ⟨misuse, value, rfl, compared, unshown.standsIn inside⟩

/-- A proper query has a result, unless the largest cap cannot be written, or a value in a filter cannot be shown. -/
theorem Service.execute_cases (service : Service) (defaultPos : 0 < service.registry.defaultLimit)
    (maxPos : 0 < service.registry.maxLimit) (proper : query.Proper) (signal : CancelSignal) :
    (∃ result, service.execute query signal = .ok result) ∨
    ∃ misuse, service.execute query signal = .error misuse ∧
      (service.registry.Unwritten misuse ∨
        ∃ value, query.Compares value ∧ value.Unshown service.levels misuse) := by
  rw [execute]
  -- Planning fails with words, fails on the largest cap, or gives a plan that is carried out.
  rcases (service.registry.plan_refuses defaultPos maxPos proper).cases with
    ⟨fault, failed, told | ⟨misuse, unwritten, rfl⟩⟩ | ⟨plan, planned⟩
  · rw [failed]
    rcases told.message service.levels with
      ⟨text, worded⟩ | ⟨misuse, value, worded, compared, unshown⟩
    · exact .inl ⟨.failed text [], by simp only [worded]; rfl⟩
    · exact .inr ⟨misuse, by simp only [worded]; rfl, .inr ⟨value, compared, unshown⟩⟩
  · rw [failed]
    exact .inr ⟨misuse, rfl, .inl unwritten⟩
  · rw [planned]
    exact .inl (service.exists_carryOut plan signal)

/-- A query has one result at most, in however many levels a complaint shows values. -/
theorem Service.execute_unique {others : Nat} {other : QueryResult}
    (executed : service.execute query signal = .ok result)
    (again : ({ service with levels := others } : Service).execute query signal = .ok other) :
    other = result := by
  rw [execute] at executed again
  -- Both plan the query alike, and only the words for a fault are made in so many levels.
  cases planned : service.registry.plan query with
  | error fault =>
    rw [planned] at executed again
    obtain ⟨text, told, same⟩ := bind_eq_ok.mp executed
    obtain ⟨textToo, toldToo, sameToo⟩ := bind_eq_ok.mp again
    cases PlanFault.message_unique told toldToo
    exact Except.ok.inj (sameToo.symm.trans same)
  | ok plan =>
    rw [planned] at executed again
    exact Except.ok.inj (again.symm.trans executed)

/-- Where the largest cap can be written and all filters can be shown, every proper query has a result. -/
theorem Service.exists_execute (service : Service) (defaultPos : 0 < service.registry.defaultLimit)
    (maxPos : 0 < service.registry.maxLimit) (written : isWritable service.registry.maxLimit = true)
    (proper : query.Proper) (showable : ∀ value, query.Compares value → value.Showable service.levels)
    (signal : CancelSignal) : ∃ result, service.execute query signal = .ok result := by
  -- Neither the cap nor a value stands in the way.
  rcases service.execute_cases defaultPos maxPos proper signal with
    found | ⟨misuse, _, ⟨long, _⟩ | ⟨value, compared, unshown⟩⟩
  · exact found
  · cases written.symm.trans long
  · exact absurd unshown (Value.showable_iff.mp (showable value compared) misuse)

/--
Every proper query has a result, complete or failed, on every database and under every signal.

There are two exceptions, and each can leave a query without any result: a registry whose largest cap has too many
digits to be written, and a filter with a value that a complaint about it cannot show, because a number in it has
too many digits or because it is nested too deeply.
-/
theorem Service.execute_answers_or_unshown
    (defaultPos : 0 < service.registry.defaultLimit) (maxPos : 0 < service.registry.maxLimit)
    (proper : query.Proper) (signal : CancelSignal) :
    (∃ result, service.execute query signal = .ok result ∧
      (service.Complete query result ∨ result.Failed)) ∨
    ∃ misuse, service.execute query signal = .error misuse ∧
      (isWritable service.registry.maxLimit = false ∧ misuse = .notAllowed unwritableIntegerText ∨
        ∃ value, query.Compares value ∧ value.Unshown service.levels misuse) := by
  -- A result tells by itself which of the two it is.
  rcases service.execute_cases defaultPos maxPos proper signal with ⟨result, executed⟩ | escaped
  · refine .inl ⟨result, executed, ?_⟩
    cases success : result.success with
    | true => exact .inl (complete_of_success executed success)
    | false => exact .inr (failed_of_no_success executed success)
  · exact .inr escaped

/-- The query of all pets is answered. -/
theorem petQuery_answered :
    0 < petService.registry.defaultLimit ∧ 0 < petService.registry.maxLimit ∧
      (petQuery none).Proper ∧
      ((∃ result, petService.execute (petQuery none) .quiet = .ok result ∧
        (petService.Complete (petQuery none) result ∨ result.Failed)) ∨
      ∃ misuse, petService.execute (petQuery none) .quiet = .error misuse ∧
        (isWritable petService.registry.maxLimit = false ∧
            misuse = .notAllowed unwritableIntegerText ∨
          ∃ value, (petQuery none).Compares value ∧ value.Unshown petService.levels misuse)) := by
  -- The query names registered entities and has no filter.
  have proper : (petQuery none).Proper :=
    ⟨by decide, by decide, by decide, by decide⟩
  exact ⟨by decide +kernel, by decide +kernel, proper,
    Service.execute_answers_or_unshown (by decide +kernel) (by decide +kernel) proper .quiet⟩

/-- The document of owners and their pets, with caps that have more digits than are ever written. -/
def longCapDocument : Value :=
  match petDocument with
  | .map entries =>
    .map (entries ++ [("defaultLimit", .decimal (.finite false 1 5000)),
      ("maxLimit", .decimal (.finite false 1 5000))])
  | document => document

/-- The service of owners and their pets under caps that cannot be written. -/
def longCapService : Service :=
  ⟨(Registry.ofDocument longCapDocument).toOption.get (by decide +kernel), petDatabase, 9⟩

/-- Nothing, in so many lists. -/
def Value.nested : Nat → Value
  | 0 => .null
  | depth + 1 => .list [nested depth]

/-- The query of both owners with those of their pets of which a field is compared with a value. -/
def petsWith (field : String) (value : Value) : Query :=
  petQuery (some ⟨[(field, value)], none⟩)

/--
Queries without any result: one under such caps, one that compares an age with a number of too many digits, and
one that compares a name with lists in lists.
-/
theorem petQuery_unanswered :
    Registry.ofDocument longCapDocument = .ok longCapService.registry ∧ (petQuery none).Proper ∧
      (¬ ∃ result, longCapService.execute (petQuery none) .quiet = .ok result) ∧
    (petsWith "age" (.int (powTen longestInteger))).Proper ∧
      (¬ ∃ result, petService.execute (petsWith "age" (.int (powTen longestInteger))) .quiet =
        .ok result) ∧
    (petsWith "name" (.nested (petService.levels + 2))).Proper ∧
      ¬ ∃ result, petService.execute (petsWith "name" (.nested (petService.levels + 2))) .quiet =
        .ok result := by
  -- What escapes is no result.
  have unanswered {service : Service} {query : Query} {misuse : Misuse}
      (refused : service.execute query .quiet = .error misuse) :
      ¬ ∃ result, service.execute query .quiet = .ok result := by
    rintro ⟨result, executed⟩
    cases refused.symm.trans executed
  have capped : longCapService.execute (petQuery none) .quiet =
      .error (.notAllowed unwritableIntegerText) := by decide +kernel
  have long : petService.execute (petsWith "age" (.int (powTen longestInteger))) .quiet =
      .error (.notAllowed unwritableIntegerText) := by decide +kernel
  have deep : petService.execute (petsWith "name" (.nested (petService.levels + 2))) .quiet =
      .error .tooDeep := by decide +kernel
  have proper (pets : Option Filter) : (petQuery pets).Proper :=
    ⟨rfl, List.forall_mem_singleton.mpr rfl, List.forall_mem_singleton.mpr rfl, rfl⟩
  exact ⟨eq_ok_get (by decide +kernel), proper _, unanswered capped, proper _, unanswered long,
    proper _, unanswered deep⟩

end Joinery
