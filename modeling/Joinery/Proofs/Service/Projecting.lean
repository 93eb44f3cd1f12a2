import Joinery.Proofs.Result.Projecting
import Joinery.Proofs.Service.Answering

/-! Narrowing down a query changes its answer only by what is left out of it. -/

namespace Joinery

variable {service : Service} {signal : CancelSignal} {result : QueryResult}

/-- A failed result has nothing to leave out. -/
theorem QueryResult.Failed.ofResult (failed : result.Failed) (projection : Projection) :
    projection.ofResult result = result := by
  -- Its parts are empty, and stay so.
  obtain ⟨success, error, data, counts, warnings⟩ := result
  have no_data : data = [] := failed.no_data
  have no_counts : counts = [] := failed.no_counts
  subst no_data no_counts
  rfl

/-- The answer to a query is what it keeps of the answer that keeps everything. -/
theorem Service.execute_whole (service : Service) (query : Query) (signal : CancelSignal) :
    service.execute query signal =
      (service.execute query.whole signal).map query.projection.ofResult := by
  rw [execute, execute, Registry.plan_whole]
  cases planned : service.registry.plan query.whole with
  | error fault =>
    -- A query that is not planned is refused with words alone.
    simp only [Except.map]
    cases fault.message service.levels <;> rfl
  | ok plan =>
    obtain ⟨everyEntity, everyField⟩ := Registry.plan_of_whole planned
    simp only [Except.map, carryOut, Plan.answer]
    have same : (plan.keeping query).execute service.database signal =
      plan.execute service.database signal := rfl
    rw [same]
    split
    · rfl
    · -- The same rows are gathered, and the sections are cut down at the end.
      have start : Gathering.start (plan.keeping query) = Gathering.start plan := rfl
      have primary : (plan.keeping query).primary = plan.primary := rfl
      rw [Plan.materialize, Plan.materialize, start, Gathering.addAll_congr primary]
      cases (Gathering.start plan).addAll plan _ with
      | error misuse => rfl
      | ok gathering => exact congrArg Except.ok (gathering.toResult_keeping everyEntity everyField)

/-- A query fails like the one that keeps everything. -/
theorem Service.execute_eq_ok_whole_iff {query : Query} (unsuccessful : result.success = false) :
    service.execute query signal = .ok result ↔
      service.execute query.whole signal = .ok result := by
  rw [execute_whole]
  constructor
  · intro executed
    cases whole : service.execute query.whole signal with
    | error misuse =>
      rw [whole] at executed
      contradiction
    | ok other =>
      -- The whole result is no success either, so nothing is left out of it.
      rw [whole] at executed
      have same : query.projection.ofResult other = result := Except.ok.inj executed
      have alike : other.success = result.success := by rw [← same, Projection.ofResult]
      have failed : other.Failed := failed_of_no_success whole (alike.trans unsuccessful)
      rw [← same, failed.ofResult]
  · intro whole
    rw [whole]
    exact congrArg Except.ok ((failed_of_no_success whole unsuccessful).ofResult _)

/--
Narrowing down never fails, and only takes entities and fields away at the end.

The statement and what is bound to it stay. Failures stay too, and any other answer is the part that is
kept of the whole answer. The last selection of entities counts, and the fields of an entity add up.
-/
theorem Service.execute_narrowed (service : Service) (query : Query) (steps : List NarrowingStep)
    (signal : CancelSignal) :
    ∃ built, query.applyAll (steps.map NarrowingStep.toStep) = .ok built ∧
      (service.registry.plan built).map (fun plan => (plan.statement, plan.parameters)) =
        (service.registry.plan query).map (fun plan => (plan.statement, plan.parameters)) ∧
      service.execute built signal =
        (service.execute query.whole signal).map built.projection.ofResult ∧
      (∀ result, result.success = false → (service.execute built signal = .ok result ↔
        service.execute query.whole signal = .ok result)) ∧
      built.projection.entities =
        ((steps.filterMap NarrowingStep.selection?).getLast?.getD query.selectedEntities).map
          lowered ∧
      (query.FieldsApart → ∀ key field, field ∈ built.projection.fields key ↔
        field ∈ query.projection.fields key ∨
          ∃ entity fields, .selectFields entity fields ∈ steps ∧ lowered entity = key ∧
            field ∈ fields.map lowered) := by
  obtain ⟨built, applied, whole, entities⟩ := query.exists_narrowed steps
  refine ⟨built, applied, ?_, whole ▸ service.execute_whole built signal, ?_, ?_, ?_⟩
  · -- Both plans are that of the query which keeps everything, but for what they keep.
    rw [Registry.plan_whole, whole, Registry.plan_whole _ query]
    cases service.registry.plan query.whole <;> rfl
  · intro result unsuccessful
    rw [execute_eq_ok_whole_iff unsuccessful, whole]
  · rw [← entities]
    rfl
  · exact fun apart key field => apart.mem_narrowed applied key field

/-- The query of all pets, narrowed down to the names and ages of the pets. -/
theorem petNames_executed :
    (petQuery none).FieldsApart ∧
    ∃ built, (petQuery none).applyAll ([.select ["Owner"], .selectFields "Pet" ["NAME"],
        .select ["PET", "Nobody"], .selectFields "pET" ["age", "nothing", "Name"]].map
          NarrowingStep.toStep) = .ok built ∧
      petService.execute built .quiet = .ok
        { petResult with
          data := [("pet", .list [
            .map [("name", .text "Ada"), ("age", .int 5)],
            .map [("name", .text "Bix"), ("age", .int 3)],
            .map [("name", .text "Cid"), ("age", .int 2)]])]
          counts := [("pet", 3)] } ∧
      "age" ∈ built.projection.fields "pet" := by
  -- No selection is repeated in the query.
  have apart : (petQuery none).FieldsApart := ⟨.nil, nofun⟩
  -- The general theorem leaves the fields out of the result that is known.
  obtain ⟨built, applied, _, executed, _, _, fields⟩ := petService.execute_narrowed (petQuery none)
    [.select ["Owner"], .selectFields "Pet" ["NAME"], .select ["PET", "Nobody"],
      .selectFields "pET" ["age", "nothing", "Name"]] .quiet
  have whole : (petQuery none).whole = petQuery none := rfl
  rw [whole, petResult_executed] at executed
  refine ⟨apart, built, applied, executed.trans ?_, (fields apart _ _).mpr (.inr ?_)⟩
  · cases applied
    decide +kernel
  · exact ⟨"pET", ["age", "nothing", "Name"], by simp, by decide +kernel, by decide +kernel⟩

end Joinery
