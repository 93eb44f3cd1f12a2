import Joinery.Proofs.Plan.Rephrasing
import Joinery.Proofs.Result.Retelling
import Joinery.Proofs.Service.OpenOrder

/-! In which order filters have their keys and operators plays no part in an answer. -/

namespace Joinery

variable {registry : Registry} {service : Service} {query other : Query} {signal : CancelSignal}
  {result : QueryResult}

/-- Plans of queries that differ in the order of keys take the same records from the same rows. -/
theorem Planning.Rephrased.sameRecords {parts : Planning registry query}
    {moved : Planning registry other} (rephrased : parts.Rephrased moved)
    (retold : query.Retold .keyOrder other) : parts.plan.SameRecords moved.plan where
  primary := rephrased.primary
  related := refiltered_entities rephrased.steps
  warnings := rephrased.warnings
  selectedEntities := retold.selectedEntities
  selectedFields := retold.keptFields

/-- A query that is planned is planned in any order of the keys of its filters. -/
theorem Query.Retold.exists_plan (retold : query.Retold .keyOrder other) {plan : Plan}
    (planned : registry.plan query = .ok plan) : ∃ changed, registry.plan other = .ok changed := by
  -- The parts of the plan are found, rephrased and put together again.
  obtain ⟨parts, _⟩ := Registry.plan_ok planned
  obtain ⟨moved, _⟩ := parts.exists_rephrased retold
  exact ⟨moved.plan, moved.planned⟩

/-- A query that comes to an answer comes to the same one in any order of the keys of its filters. -/
theorem Query.Retold.execute (retold : query.Retold .keyOrder other)
    (executed : service.execute query signal = .ok result) (succeeded : result.success = true) :
    ∃ changed, service.execute other signal = .ok changed ∧ result.Retold Eq List.Perm changed := by
  cases Service.quiet_of_success executed succeeded
  obtain ⟨plan, rows, gathering, answered⟩ := Service.answered_of_execute executed succeeded
  obtain ⟨parts, rfl⟩ := Registry.plan_ok answered.planned
  obtain ⟨moved, rephrased, columns⟩ := parts.exists_rephrased retold
  have same := rephrased.sameRecords retold
  -- The same rows are returned, and each of them is fetched from the same sources.
  have types : moved.plan.resultTypes = parts.plan.resultTypes := by
    rw [Plan.resultTypes, Plan.resultTypes, same.primary, same.related]
  have answeredToo : service.Answered other moved.plan rows gathering
      (gathering.toResult moved.plan) := by
    refine ⟨moved.planned, rephrased.check columns answered.checked, ?_, ?_, rfl⟩
    · rw [rephrased.columns, types, rephrased.sources, rephrased.resultRows]
      exact answered.fetched
    · rw [Gathering.addAll_congr same.primary, Gathering.start, same.related]
      exact answered.gathered
  refine ⟨_, answeredToo.executed, ?_⟩
  rw [answered.result_eq]
  exact same.toResult rephrased.rejectedFields.symm gathering

/-- A join that ranks the same rows in other words leaves no more open. -/
theorem planJoin_untied_congr {database : Database} {steps : List JoinStep} {step : JoinStep}
    {predicates others : List Predicate} {parameters bound : List Parameter}
    (alike : satisfies others bound = satisfies predicates parameters)
    (untied : ∀ ranking ∈ (planJoin registry steps step predicates).ranking,
      (database.tableOrEmpty step.entity.tableName).Untied ranking parameters) :
    ∀ ranking ∈ (planJoin registry steps step others).ranking,
      (database.tableOrEmpty step.entity.tableName).Untied ranking bound := by
  unfold planJoin at untied ⊢
  split at untied
  · rintro ranking ⟨⟩
  · -- Both rankings have one key and one order.
    have own := untied _ rfl
    rintro ranking ⟨⟩
    simp only [Relation.Untied, Relation.restrict, alike] at own ⊢
    exact own

/-- A statement that leaves no order of rows open does not do so in other words. -/
theorem Planning.Rephrased.untied {parts : Planning registry query} {moved : Planning registry other}
    {database : Database} (rephrased : parts.Rephrased moved)
    (untied : parts.plan.statement.Untied database parts.plan.parameters) :
    moved.plan.statement.Untied database moved.plan.parameters := by
  -- Each join ranks as the join at its place does.
  constructor
  · intro paired member
    obtain ⟨i, at_⟩ := List.mem_iff_getElem?.mp member
    obtain ⟨length, each⟩ := List.forall₂_iff_get.mp rephrased.joins
    obtain ⟨short, rfl⟩ := List.getElem?_eq_some_iff.mp at_
    obtain ⟨step, predicates, others, pair, join, same⟩ := each i (length ▸ short) short
    have own := untied.ranked _ (List.get_mem _ ⟨i, length ▸ short⟩)
    simp only [List.get_eq_getElem] at join same own
    rw [join, planJoin_table] at own
    rw [same, planJoin_table]
    exact planJoin_untied_congr pair.alike own
  -- The joined rows are the same, and the order of them is.
  · have joined := untied.joined
    simp only [Statement.sortKey] at joined ⊢
    rwa [rephrased.joinedRows, rephrased.sources, rephrased.order]

/-- The steps for owners and their pets, with the keys of both filters. -/
def keyedSteps (owners pets : List (String × Value)) : List QueryStep :=
  [.fromEntity (.text "Owner"), .whereFilter (.map owners),
    .withRelated (.text "Pet") (.map pets) .null]

/-- The keys for both owners, one of which is not open. -/
def ownerKeys : List (String × Value) :=
  [("zip", .int 1), ("id", .map [("$in", .list [.text "A", .text "B"]), ("$ne", .null)])]

/-- The keys for grown pets, two of which are not open, and a cap that caps nothing. -/
def petKeys : List (String × Value) :=
  [("size", .int 1), ("age", .map [("$lt", .int 6), ("$gte", .int 2)]), ("$Limit", .int 0),
    ("color", .null), ("name", .map [("$ne", .null)])]

/-- The query of those steps. -/
def keyedQuery : Query :=
  (Query.empty.applyAll (keyedSteps ownerKeys petKeys)).toOption.get (by decide +kernel)

/-- The plan of that query. -/
def keyedPlan : Plan := (petService.registry.plan keyedQuery).toOption.get (by decide +kernel)

/-- The keys for both owners in another order, and the operators with them. -/
def ownerKeysTurned : List (String × Value) :=
  [("id", .map [("$ne", .null), ("$in", .list [.text "A", .text "B"])]), ("zip", .int 1)]

/-- The spellings of the field of addresses in a filter. -/
def addressKeys : List String :=
  ["email", "Email", "eMail", "emAil", "emaIl", "emaiL", "EMail", "EmAil", "EmaIl", "EmaiL", "eMAil"]

/-- The keys that leave out two addresses, each under every spelling. -/
def excludedKeys : List (String × Value) :=
  addressKeys.map fun key =>
    (key, .map [("$ne", .text "info@example.com"), ("$nin", .list [.text "post@example.com"])])

/-- The key that sets a bound to the identifiers. -/
def boundedKey : String × Value := ("customer_id", .map [("$gte", .text "C")])

/-- The steps for the customers of some conditions, up to a thousand of them. -/
def addresseeSteps (conditions : List (String × Value)) : List QueryStep :=
  [.fromEntity (.text "Customer"), .whereFilter (.map conditions), .limit (.int 1000)]

/-- The query with the bound behind the other keys. -/
def boundedLastQuery : Query :=
  (Query.empty.applyAll (addresseeSteps (excludedKeys ++ [boundedKey]))).toOption.get
    (by decide +kernel)

/-- The query with the bound before the other keys. -/
def boundedFirstQuery : Query :=
  (Query.empty.applyAll (addresseeSteps (boundedKey :: excludedKeys))).toOption.get
    (by decide +kernel)

/-- The plan with the bound behind the other conditions. -/
def boundedLastPlan : Plan :=
  (addresseeService.registry.plan boundedLastQuery).toOption.get (by decide +kernel)

/-- The plan with the bound before the other conditions. -/
def boundedFirstPlan : Plan :=
  (addresseeService.registry.plan boundedFirstQuery).toOption.get (by decide +kernel)

end Joinery
