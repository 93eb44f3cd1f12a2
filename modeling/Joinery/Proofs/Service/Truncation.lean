import Joinery.Customers.Indexes
import Joinery.Proofs.Plan.Cap
import Joinery.Proofs.Result.Prefixes
import Joinery.Proofs.Service.Branches
import Joinery.Proofs.Service.OpenOrder
import Joinery.Proofs.Service.Running

/-! A smaller cap on joined rows cuts off the ends of lists, and changes nothing else in an answer. -/

namespace Joinery

/-- How an answer under a smaller cap relates to the one under a larger cap. -/
structure QueryResult.Truncates (result shorter : QueryResult) (plan : Plan) (bound : Int) :
    Prop where
  /-- It is a success as well. -/
  successful : shorter.success = true
  /-- It tells of the same entities. -/
  keys : shorter.data.keys = result.data.keys
  /-- The primary record is the same. -/
  primary : shorter.data.get? plan.primary.key = result.data.get? plan.primary.key
  /-- Every list is the beginning of the longer one, up to the bound. -/
  related : ∀ entity ∈ plan.related, plan.keeps entity.key = true → ∃ items more : List Value,
    shorter.data.get? entity.key = some (.list items) ∧
      result.data.get? entity.key = some (.list more) ∧
      items <+: more ∧ (items.length : Int) ≤ bound

variable {registry : Registry} {service : Service} {query : Query} {asked other rowLimit : Value}
  {m n cap : Int} {signal : CancelSignal}

/-- A number below one that can be written can be written. -/
theorem checkWritable_of_le (least : 0 ≤ m) (below : m ≤ n) (written : checkWritable n = .ok ()) :
    checkWritable m = .ok () := by
  -- It has no more digits.
  unfold checkWritable isWritable at written ⊢
  generalize powTen longestInteger = bound at written ⊢
  split at written
  · rename_i short
    have size : n.natAbs < bound := by simpa using short
    have smaller : m.natAbs < bound := by omega
    rw [if_pos (by simpa using smaller)]
  · contradiction

/-- A positive whole number is bounded by the largest cap. -/
theorem Registry.rowLimit_int (positive : 0 < n) :
    registry.rowLimit (.int n) = .ok (.int (min n registry.maxLimit)) := by
  simp [rowLimit, Value.isNull, Value.exceeds?, positive, atMost_int]

/-- A cap that is missing or not positive counts as the default one. -/
theorem Registry.rowLimit_default (none : asked.isNull = true ∨ asked.exceeds? 0 = some false) :
    registry.rowLimit asked = .ok (atMost (.int registry.defaultLimit) registry.maxLimit) := by
  -- Null is tested first, and then the comparison with zero.
  rw [rowLimit]
  rcases none with missing | small
  · rw [if_pos missing]
  · rw [small]
    exact ite_self _

/-- The default cap is bounded by the largest one, also when it is asked for. -/
theorem Registry.rowLimit_defaultLimit (registry : Registry) :
    registry.rowLimit (.int registry.defaultLimit) =
      .ok (atMost (.int registry.defaultLimit) registry.maxLimit) := by
  -- A default that is not positive would count as the default as well.
  by_cases positive : 0 < registry.defaultLimit
  · rw [rowLimit_int positive, atMost_int]
  · exact rowLimit_default (.inr (congrArg some (decide_eq_false positive)))

/-- The planned cap of a positive whole number is the smaller of it and the largest cap. -/
theorem Query.plannedCap_int (positive : 0 < n) :
    (query.limit (.int n)).plannedCap registry = .ok (rowLimit, cap) ↔
      rowLimit = .int (min n registry.maxLimit) ∧ cap = min n registry.maxLimit ∧
        checkWritable cap = .ok () := by
  -- The number is bounded, found to be whole, and written into the warning.
  constructor
  · intro planned
    obtain ⟨bounded, whole, written⟩ := plannedCap_ok planned
    have same : rowLimit = .int (min n registry.maxLimit) :=
      (Except.ok.inj ((Registry.rowLimit_int positive).symm.trans bounded)).symm
    subst same
    exact ⟨rfl, (Except.ok.inj whole).symm, written⟩
  · rintro ⟨rfl, rfl, written⟩
    refine bind_eq_ok.mpr ⟨_, Registry.rowLimit_int positive, bind_eq_ok.mpr ⟨_, rfl, ?_⟩⟩
    exact bind_eq_ok.mpr ⟨(), written, rfl⟩

/-- The parts of a planning with another cap on joined rows. -/
def Planning.relimit (parts : Planning registry (query.limit asked)) (rowLimit : Value) (cap : Int)
    (capped : (query.limit other).plannedCap registry = .ok (rowLimit, cap)) :
    Planning registry (query.limit other) where
  filter := parts.filter
  primary := parts.primary
  order := parts.order
  joins := parts.joins
  main := parts.main
  rowLimit := rowLimit
  cap := cap
  named := parts.named
  filtered := parts.filtered
  required := parts.required
  ordered := parts.ordered
  joined := parts.joined
  narrowed := parts.narrowed
  capped := capped

/-- The cap of a query plays no part in its plan beyond the planned cap. -/
theorem Registry.plan_limit_congr
    (same : (query.limit asked).plannedCap registry = (query.limit other).plannedCap registry) :
    registry.plan (query.limit asked) = registry.plan (query.limit other) := by
  -- Everything else is read from the same fields.
  unfold Registry.plan
  rw [same]
  rfl

/-- A cap that is missing or not positive leads to the plan of the default one. -/
theorem Registry.plan_limit_default (none : asked.isNull = true ∨ asked.exceeds? 0 = some false) :
    registry.plan (query.limit asked) = registry.plan (query.limit (.int registry.defaultLimit)) := by
  refine Registry.plan_limit_congr ?_
  -- Both caps are planned alike.
  unfold Query.plannedCap
  change (registry.rowLimit asked >>= _) = (registry.rowLimit (.int registry.defaultLimit) >>= _)
  rw [Registry.rowLimit_default none, Registry.rowLimit_defaultLimit]

variable {parts : Planning service.registry (query.limit asked)} {rows : List FetchedRow}
  {gathering : Gathering} {result : QueryResult}

/-- Under a smaller cap the statement is carried out to the first of its rows. -/
theorem Service.Answered.relimit
    (answered : service.Answered (query.limit asked) parts.plan rows gathering result)
    (positive : 0 < cap) (below : cap ≤ parts.cap)
    (capped : (query.limit other).plannedCap service.registry = .ok (rowLimit, cap)) :
    ∃ gatheringToo shorter, service.Answered (query.limit other)
      (parts.relimit rowLimit cap capped).plan (rows.take cap.toNat) gatheringToo shorter := by
  -- The rows that are fetched are as many as those that are returned.
  have fetched := List.forall₂_take cap.toNat answered.fetched
  have below : cap ≤ parts.plan.statement.cap := below
  rw [Statement.resultRows, ← capRows_eq_take (Int.le_of_lt positive) below] at fetched
  -- Nothing in a fetched row stops the gathering.
  have telling : ∀ row ∈ rows.take cap.toNat, Entries.Telling row := by
    intro row member
    obtain ⟨joined, _, built⟩ := exists_left_of_aligned fetched member
    exact fetchRow_telling built
  obtain ⟨gatheringToo, gathered⟩ := Gathering.exists_addAll telling
    (Gathering.start (parts.relimit rowLimit cap capped).plan)
  -- A smaller cap fits where a larger one does.
  have checked : (parts.relimit rowLimit cap capped).plan.statement.check service.database
      parts.plan.parameters = .ok () := by
    obtain ⟨orders, tables, rankings, columns, conditions, joins, order, fits⟩ :=
      Statement.check_ok_iff.mp answered.checked
    refine Statement.check_ok_iff.mpr
      ⟨orders, tables, rankings, columns, conditions, joins, order, ?_⟩
    change fitsInt64 parts.cap = true at fits
    change fitsInt64 cap = true
    simp only [fitsInt64, Bool.and_eq_true, decide_eq_true_eq] at fits ⊢
    omega
  exact ⟨gatheringToo, _, (parts.relimit rowLimit cap capped).planned, checked, fetched, gathered, rfl⟩

/-- Under a smaller cap the answer is a truncated one. -/
theorem Service.Answered.truncates {gatheringToo : Gathering} {shorter : QueryResult}
    {capped : (query.limit other).plannedCap service.registry = .ok (rowLimit, cap)}
    (answered : service.Answered (query.limit asked) parts.plan rows gathering result)
    (answeredToo : service.Answered (query.limit other) (parts.relimit rowLimit cap capped).plan
      (rows.take cap.toNat) gatheringToo shorter)
    (positive : 0 < cap) : result.Truncates shorter parts.plan cap := by
  have keys := Gathering.keys_toResult answered.gathered
  have keysToo := Gathering.keys_toResult answeredToo.gathered
  -- At least the first row is left, and with it the primary record.
  have primary : gatheringToo.primary = gathering.primary := by
    rw [Gathering.primary_ok answered.gathered, Gathering.primary_ok answeredToo.gathered,
      List.head?_take, if_neg (by omega)]
    rfl
  refine ⟨answeredToo.result_eq ▸ rfl, ?_, ?_, fun entity member kept => ?_⟩
  · rw [answered.result_eq, answeredToo.result_eq, keys.1, keysToo.1]
    rfl
  · cases kept : parts.plan.keeps parts.plan.primary.key with
    | false => rw [answered.get?_of_dropped kept, answeredToo.get?_of_dropped kept]
    | true =>
      have same : gatheringToo.primarySection (parts.relimit rowLimit cap capped).plan =
          gathering.primarySection parts.plan := by
        unfold Gathering.primarySection
        rw [primary]
        rfl
      exact (answeredToo.get?_primary kept).1.trans
        (same ▸ (answered.get?_primary kept).1.symm)
  -- The smaller answer is gathered from the first rows, so each of its branches is a beginning of the other.
  · obtain ⟨step, inside, rfl⟩ := List.mem_map.mp member
    obtain ⟨branch, added, _, listed⟩ := answered.folded inside
    obtain ⟨branchToo, addedToo, _, listedToo⟩ := answeredToo.folded inside
    refine ⟨_, _, (listedToo kept).1, (listed kept).1, ?_, ?_⟩
    · exact (Branch.records_prefix (List.take_prefix _ rows) addedToo added).map _
    · have bounded := Branch.length_records_le addedToo
      rw [List.length_take] at bounded
      rw [List.length_map]
      omega

/-- The cap on joined rows truncates monotonically: a smaller one only cuts off the ends of lists. -/
theorem Service.execute_truncates (maxPos : 0 < service.registry.maxLimit) (least : 1 ≤ n)
    (below : n ≤ m) (executed : service.execute (query.limit (.int m)) signal = .ok result)
    (succeeded : result.success = true) :
    ∃ plan shorter, service.registry.plan (query.limit (.int m)) = .ok plan ∧
      service.execute (query.limit (.int n)) signal = .ok shorter ∧
      result.Truncates shorter plan (min n service.registry.maxLimit) := by
  obtain rfl := Service.quiet_of_success executed succeeded
  obtain ⟨_, rows, gathering, answered⟩ := Service.answered_of_execute executed succeeded
  obtain ⟨parts, rfl⟩ := Registry.plan_ok answered.planned
  -- The planned caps are those that were asked for, bounded by the largest one.
  obtain ⟨_, larger, written⟩ := (Query.plannedCap_int (by omega)).mp parts.capped
  have within : min n service.registry.maxLimit ≤ parts.cap := by omega
  have positive : 0 < min n service.registry.maxLimit := by omega
  have capped : (query.limit (.int n)).plannedCap service.registry =
      .ok (.int (min n service.registry.maxLimit), min n service.registry.maxLimit) :=
    (Query.plannedCap_int (by omega)).mpr
      ⟨rfl, rfl, checkWritable_of_le (Int.le_of_lt positive) within written⟩
  obtain ⟨gatheringToo, shorter, answeredToo⟩ := answered.relimit positive within capped
  exact ⟨parts.plan, shorter, parts.planned, answeredToo.executed,
    answered.truncates answeredToo positive⟩

/-- A positive cap bounds every list of an answer, in whatever order the engine comes across rows. -/
theorem Service.length_list_le {engine : Engine} {key : String} {items : List Value}
    (maxPos : 0 < service.registry.maxLimit) (least : 1 ≤ n)
    (executed : service.executeOn engine (query.limit (.int n)) signal = .ok result)
    (listed : result.data.get? key = some (.list items)) :
    (items.length : Int) ≤ min n service.registry.maxLimit := by
  rw [Service.executeOn] at executed
  split at executed
  · -- A query that is not planned has an answer without lists.
    obtain ⟨_, _, same⟩ := bind_eq_ok.mp executed
    cases same
    contradiction
  · rename_i plan planned
    cases settled : signal.settle (engine.run service.database plan) with
    | error fault =>
      rw [settled] at executed
      cases executed
      contradiction
    | ok rows =>
      rw [settled] at executed
      obtain ⟨gathering, gathered, same⟩ := bind_eq_ok.mp executed
      cases same
      -- The rows are as many as the statement returns, which its cap bounds.
      obtain ⟨_, _, fetched⟩ := bind_eq_ok.mp (CancelSignal.settle_eq_ok_iff.mp settled).2
      obtain ⟨parts, rfl⟩ := Registry.plan_ok planned
      have cap : parts.plan.statement.cap = min n service.registry.maxLimit :=
        ((Query.plannedCap_int (by omega)).mp parts.capped).2.1
      have bounded : ((engine.resultRows service.database parts.plan.statement
          parts.plan.parameters).length : Int) ≤ parts.plan.statement.cap :=
        length_capRows_le (by omega) _
      have fewer := Gathering.length_list_le gathered listed
      rw [← (mapM_eq_ok.mp fetched).length_eq] at fewer
      omega

/-- Under every cap a query leaves the same orders of rows open. -/
theorem Registry.untied_limit {database : Database} {plan : Plan}
    (planned : registry.plan (query.limit asked) = .ok plan)
    (untied : plan.statement.Untied database plan.parameters) {changed : Plan}
    (plannedToo : registry.plan (query.limit other) = .ok changed) :
    changed.statement.Untied database changed.parameters := by
  obtain ⟨parts, rfl⟩ := Registry.plan_ok planned
  obtain ⟨others, rfl⟩ := Registry.plan_ok plannedToo
  -- The other plan is the one with the other planned cap, which comes after ranking and sorting.
  rw [Except.ok.inj (others.planned.symm.trans
    (parts.relimit others.rowLimit others.cap others.capped).planned)]
  exact ⟨untied.ranked, untied.joined⟩

/-- The plan of the query of all pets under a cap of three joined rows. -/
def petLimitPlan : Plan :=
  (petService.registry.plan ((petQuery none).limit (.int 3))).toOption.get (by decide +kernel)

/-- The query of the customers whose identifiers come behind a text. -/
def addresseeQuery : Query where
  primary := .text "Customer"
  filter := some ⟨[("customer_id", .map [("$gte", .text "C")])], none⟩
  related := []
  selectedEntities := []
  selectedFields := []
  maxRows := .null

/-- Its plan under a cap of one joined row. -/
def addresseeShortPlan : Plan :=
  (addresseeService.registry.plan (addresseeQuery.limit (.int 1))).toOption.get (by decide +kernel)

/-- Its plan under a cap of a thousand joined rows. -/
def addresseeLongPlan : Plan :=
  (addresseeService.registry.plan (addresseeQuery.limit (.int 1000))).toOption.get
    (by decide +kernel)

end Joinery
