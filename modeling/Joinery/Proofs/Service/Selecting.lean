import Joinery.Proofs.Result.Projecting
import Joinery.Service

/-! Keeping only some entities in a result changes nothing of what it tells about these. -/

namespace Joinery

/-- The plan that keeps these entities. -/
def Plan.select (plan : Plan) (names : List String) : Plan :=
  { plan with selectedEntities := names.map lowered }

/-- A query that keeps only some entities is planned like one that keeps all, or refused like it. -/
theorem Registry.plan_select (registry : Registry) (query : Query) (names : List String) :
    registry.plan (query.select names) = (registry.plan query).map (·.select names) := by
  -- Both plans are that of the query which keeps everything, and differ in what they keep of it.
  have same : (query.select names).whole = query.whole := rfl
  rw [plan_whole, same, plan_whole registry query]
  cases registry.plan query.whole <;> rfl

/-- Two results that tell the same about an entity, and fail alike. -/
structure QueryResult.SameAbout (key : String) (result other : QueryResult) : Prop where
  /-- Both are a success, or none is. -/
  success : other.success = result.success
  /-- They tell of the same error, or of none. -/
  error : other.error = result.error
  /-- They give the same records of the entity. -/
  data : other.data.get? key = result.data.get? key
  /-- They give the same number of them. -/
  counts : other.counts.get? key = result.counts.get? key
  /-- They warn of the same. -/
  warnings : other.warnings = result.warnings

/-- A result tells the same about itself. -/
theorem QueryResult.SameAbout.refl (key : String) (result : QueryResult) :
    result.SameAbout key result :=
  ⟨rfl, rfl, rfl, rfl, rfl⟩

variable {plan : Plan} {names : List String} {key : String}

/-- A result tells about an entity that is kept what the sections of all entities tell. -/
theorem Gathering.toResult_get?_of_keeps (kept : plan.keeps key = true) (gathering : Gathering) :
    let sections := gathering.primarySection plan :: gathering.branches.map (·.section plan)
    (gathering.toResult plan).data.get? key =
        Entries.get? (sections.map fun part => (part.key, part.content)) key ∧
      (gathering.toResult plan).counts.get? key =
        Entries.get? (sections.map fun part => (part.key, part.count)) key := by
  -- Values and counts are looked up among the sections that are kept.
  constructor
  · refine Eq.trans ?_ (Entries.get?_filter _ kept)
    rw [List.filter_map]
    rfl
  · refine Eq.trans ?_ (Entries.get?_filter _ kept)
    rw [List.filter_map]
    rfl

/-- Where all entities are kept, keeping only some changes nothing of what is told about these. -/
theorem Gathering.sameAbout_select (every : plan.selectedEntities = [])
    (kept : key ∈ names.map lowered) (gathering : Gathering) :
    (gathering.toResult plan).SameAbout key (gathering.toResult (plan.select names)) := by
  -- The name is kept by both plans.
  have all : plan.keeps key = true := by rw [Plan.keeps, every]; rfl
  have some : (plan.select names).keeps key = true := by
    rw [Plan.keeps, Bool.or_eq_true, List.contains_iff_mem]
    exact .inr kept
  obtain ⟨data, counts⟩ := gathering.toResult_get?_of_keeps all
  obtain ⟨dataToo, countsToo⟩ := gathering.toResult_get?_of_keeps some
  exact ⟨rfl, rfl, dataToo.trans data.symm, countsToo.trans counts.symm, rfl⟩

/-- A query that keeps only some entities is answered, about these, like one that keeps all. -/
theorem Service.execute_select {service : Service} {query : Query} {signal : CancelSignal}
    (every : query.selectedEntities = []) (kept : key ∈ names.map lowered) :
    SameOutcome (QueryResult.SameAbout key) (service.execute query signal)
      (service.execute (query.select names) signal) := by
  have itself (outcome : Except Misuse QueryResult) :
      SameOutcome (QueryResult.SameAbout key) outcome outcome := by
    cases outcome with
    | error misuse => exact .fault misuse
    | ok result => exact .success (.refl key result)
  -- Selecting comes after planning, so both queries are planned to one plan or to one fault.
  rw [execute, execute, Registry.plan_select]
  cases planned : service.registry.plan query with
  | error fault => exact itself _
  | ok plan =>
    have none : plan.selectedEntities = [] := by
      obtain ⟨parts, rfl⟩ := Registry.plan_ok planned
      rw [Planning.plan, every, List.map_nil]
    have same : (plan.select names).execute service.database signal =
      plan.execute service.database signal := rfl
    simp only [Except.map, carryOut, Plan.answer, same]
    split
    · exact .success (.refl key _)
    · -- The same rows are gathered, and only what is kept of the sections differs.
      have primary : (plan.select names).primary = plan.primary := rfl
      rw [Plan.materialize, Plan.materialize, Gathering.addAll_congr primary]
      have start : Gathering.start (plan.select names) = Gathering.start plan := rfl
      rw [start]
      refine (SameOutcome.refl _).bind ?_
      rintro gathering _ rfl
      exact .success (gathering.sameAbout_select none kept)

end Joinery
