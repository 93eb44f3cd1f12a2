import Joinery.Proofs.Database.Checking
import Joinery.Proofs.Plan.Capping
import Joinery.Proofs.Service.Running

/-! A query for a few records of each parent gets the first ones, unless the ranks are covered up. -/

namespace Joinery

variable {service : Service} {query : Query} {plan : Plan} {order : JoinOrder} {step : JoinStep}

/--
A related entity with a cap is matched by the first admitted rows of each joining value.

The ranks need a name of their own: neither a column of the table nor the joining field has it.
-/
theorem Service.first_rows_matched {i : Nat} {limit : Int}
    (planned : service.registry.plan query = .ok plan)
    (ordered : JoinOrder.ofRequests service.registry plan.primary query.related = .ok order)
    (at_ : order.steps[i]? = some step) (limited : step.filter.bind Filter.limit = some limit)
    (positive : 0 < limit)
    (checked : plan.statement.check service.database plan.parameters = .ok ())
    (unranked : (service.database.recordsOf step.entity).hasColumn rankColumn = false)
    (named : sameIdentifier rankColumn (readBack (joinKeys step.parent step.entity).child) =
      false) :
    ∃ join terms, plan.statement.joins[i]? = some join ∧
      join.key = (joinKeys step.parent step.entity).child ∧
      readOrder step.entity.defaultOrderBy = .ok terms ∧
      join.MatchesFirst (plan.statement.sources service.database plan.parameters)
        (join.source service.database plan.parameters) (service.database.recordsOf step.entity)
        plan.parameters (readBack (joinKeys step.parent step.entity).child) terms
        (min limit service.registry.maxLimit).toNat
        (step.entity.admits step.filter (service.database.recordsOf step.entity)) := by
  -- The join ranks by its key, in the order of the entity, what its filter admits.
  obtain ⟨parts, rfl⟩ := Registry.plan_ok planned
  cases parts.ordered.symm.trans ordered
  obtain ⟨join, predicates, placed, table, key, ranked, bare, admits⟩ :=
    parts.capped_at at_ (Registry.entityLimit_pos limited positive)
  have source := Join.source_of_ranking ranked service.database parts.plan.parameters
  have resolved := Statement.resolved_of_check checked
  have read := Join.readOrder_of_checkOrder ranked
    (resolved.orders join (List.mem_of_getElem? placed))
  -- The joining field is a column of the table, as it is no name of the ranks.
  have keys := resolved.keys i join placed
  rw [Statement.sourceAt_succ placed, source, table] at keys
  have found := Relation.hasColumn_of_ranked keys (key ▸ named)
  have first := Join.matchesFirst
    (parts.plan.statement.sources service.database parts.plan.parameters) parts.plan.parameters
    key.symm ranked bare unranked found
  refine ⟨join, _, placed, key, read, ?_⟩
  rw [source, table, ← key, ← admits]
  exact first

/-- The query of both owners with their first pet by age. -/
def firstPetQuery : Query := petQuery (some ⟨[], some 1⟩)

/-- The plan of the query of first pets. -/
def firstPetPlan : Plan :=
  (petService.registry.plan firstPetQuery).toOption.get (by decide +kernel)

/-- The joins of the query of first pets. -/
def firstPetOrder : JoinOrder :=
  (JoinOrder.ofRequests petService.registry firstPetPlan.primary
    firstPetQuery.related).toOption.get (by decide +kernel)

/-- The join of the first pets. -/
def firstPetStep : JoinStep := firstPetOrder.steps.head (by decide +kernel)

/-- Of each owner the first pet is matched, in the order of falling age. -/
theorem Service.first_pets_matched :
    firstPetStep.filter.bind Filter.limit = some 1 ∧
    ∃ join terms, firstPetPlan.statement.joins[0]? = some join ∧
      join.key = (joinKeys firstPetStep.parent firstPetStep.entity).child ∧
      readOrder firstPetStep.entity.defaultOrderBy = .ok terms ∧
      join.MatchesFirst (firstPetPlan.statement.sources petService.database firstPetPlan.parameters)
        (join.source petService.database firstPetPlan.parameters)
        (petService.database.recordsOf firstPetStep.entity) firstPetPlan.parameters
        (readBack (joinKeys firstPetStep.parent firstPetStep.entity).child) terms
        (min 1 petService.registry.maxLimit).toNat
        (firstPetStep.entity.admits firstPetStep.filter
          (petService.database.recordsOf firstPetStep.entity)) := by
  -- Every premise is evaluated.
  have at_ : firstPetOrder.steps[0]? = some firstPetStep := by
    rw [← List.head?_eq_getElem?]
    exact List.head?_eq_some_head _
  have limited : firstPetStep.filter.bind Filter.limit = some 1 := by decide +kernel
  exact ⟨limited, Service.first_rows_matched (eq_ok_get _) (eq_ok_get _) at_ limited (by decide)
    (by decide +kernel) (by decide +kernel) (by decide +kernel)⟩

/-- What a ranking keeps of a table of which the rows come in its order already. -/
def Relation.rankedInOrder (relation : Relation) (ranking : Ranking) (parameters : List Parameter) :
    Relation :=
  let wide := relation.withRankColumn (withRanks (relation.together (readBack ranking.key)) []
    (relation.restrict ranking.conditions parameters)) fun _ member =>
      (List.mem_filter.mp (mem_of_mem_withRanks member)).1
  wide.keep (wide.withinCap ranking.cap)

/-- Sorting can be left out where the rows come in the order of a ranking. -/
theorem Relation.ranked_eq_rankedInOrder {relation : Relation} {ranking : Ranking}
    {parameters : List Parameter}
    (sorted : (relation.restrict ranking.conditions parameters).Pairwise fun a b =>
      relation.rankedBefore (readBack ranking.key) ranking.terms a b = true) :
    relation.ranked ranking parameters = relation.rankedInOrder ranking parameters := by
  -- Sorting does not change rows that are sorted.
  simp only [Relation.ranked, Relation.ranks, List.mergeSort_of_pairwise sorted, rankedInOrder]

/-- The rows that the first join of a plan links to a row of its parent. -/
def Plan.firstLinked (plan : Plan) (database : Database) (parentRow : Row) : List Row :=
  match plan.statement.joins with
  | [] => []
  | join :: _ => join.linked (plan.statement.sources database plan.parameters)
    (join.source database plan.parameters) plan.parameters parentRow

/-- The rows that the first join of a plan links to a row, where its table comes in order. -/
def Plan.firstLinkedInOrder? (plan : Plan) (database : Database) (parentRow : Row) :
    Option (List Row) := do
  let join ← plan.statement.joins.head?
  let ranking ← join.ranking
  let relation := database.tableOrEmpty join.table
  if (relation.restrict ranking.conditions plan.parameters).Pairwise fun a b =>
    relation.rankedBefore (readBack ranking.key) ranking.terms a b = true then
    some (join.linked (plan.statement.sources database plan.parameters)
      (relation.rankedInOrder ranking plan.parameters) plan.parameters parentRow)
  else none

/-- What is worked out without sorting are the linked rows. -/
theorem Plan.firstLinked_eq {plan : Plan} {database : Database} {parentRow : Row} {rows : List Row}
    (found : plan.firstLinkedInOrder? database parentRow = some rows) :
    plan.firstLinked database parentRow = rows := by
  -- The table was found to be in order.
  rw [Plan.firstLinkedInOrder?] at found
  rw [Plan.firstLinked]
  cases joins : plan.statement.joins with
  | nil => simp [joins] at found
  | cons join rest =>
    simp only [joins, List.head?_cons, Option.bind_eq_bind, Option.bind_some,
      Option.bind_eq_some_iff] at found
    obtain ⟨ranking, ranked, found⟩ := found
    split at found
    · rename_i sorted
      simp only [Join.source_of_ranking ranked, Relation.ranked_eq_rankedInOrder sorted]
      exact Option.some.inj found
    · contradiction

/-- The document of owners with cats, dogs and toys, none of which declares a column of ranks. -/
def litterDocument : Value :=
  .map [("entities", .map [
    ("Owner", entityDocument "owner" [("id", "integer"), ("_RN", "integer")] ["id"] .null
      [("Cat", .map [("foreignKey", .text "id"), ("localKey", .text "owner")]),
        ("Dog", .map [("foreignKey", .text "id"), ("localKey", .text "owner")]),
        ("Toy", .map [("foreignKey", .text "_RN")])]),
    ("Cat", entityDocument "cat" [("id", "integer"), ("owner", "integer")] [] (.text "id") []),
    ("Dog", entityDocument "dog" [("id", "integer"), ("owner", "string")] [] (.text "id") []),
    ("Toy", entityDocument "toy" [("id", "integer")] [] (.text "id") [])])]

/-- The registry of owners with cats, dogs and toys. -/
def litterRegistry : Registry :=
  (Registry.ofDocument litterDocument).toOption.get (by decide +kernel)

/--
One owner, with records in three tables.

The table of cats has a column that is named like the ranks, and dogs hold their owner as a text.
-/
def litterDatabase : Database :=
  ⟨[⟨"owner", ⟨[⟨"id", .numeric⟩, ⟨"_RN", .numeric⟩], [[.integer 1, .integer 1]], by decide⟩⟩,
    ⟨"cat", ⟨[⟨"id", .numeric⟩, ⟨"owner", .numeric⟩, ⟨"_rn", .numeric⟩],
      [[.integer 1, .integer 1, .integer 0], [.integer 2, .integer 1, .integer 0]], by decide⟩⟩,
    ⟨"dog", ⟨[⟨"id", .numeric⟩, ⟨"owner", .text⟩],
      [[.integer 1, .text "01"], [.integer 2, .text "1"]], by decide⟩⟩,
    ⟨"toy", ⟨[⟨"id", .numeric⟩], [[.integer 7]], by decide⟩⟩], by decide⟩

/-- A query of the owner with at most one record of an entity. -/
def litterQuery (entity : String) : Query where
  primary := .text "Owner"
  filter := some ⟨[("id", .int 1)], none⟩
  related := [⟨.text entity, some ⟨[], some 1⟩, .null⟩]
  selectedEntities := []
  selectedFields := []
  maxRows := .null

/-- Whether a query of at most one record links rows to the owner, under undeclared ranks. -/
def LitterLinks (entity : String) (rows : List Row) : Prop :=
  ∃ plan, litterRegistry.plan (litterQuery entity) = .ok plan ∧
    plan.statement.check litterDatabase plan.parameters = .ok () ∧
    (plan.related.all fun related => !related.declares rankColumn) = true ∧
    plan.firstLinked litterDatabase [.integer 1, .integer 1] = rows

/-- The rows that a query of at most one record links to the owner, by evaluation. -/
def litterRows? (entity : String) : Option (List Row) := do
  let plan ← (litterRegistry.plan (litterQuery entity)).toOption
  if plan.statement.check litterDatabase plan.parameters = .ok () ∧
      (plan.related.all fun related => !related.declares rankColumn) = true then
    plan.firstLinkedInOrder? litterDatabase [.integer 1, .integer 1]
  else none

/-- Evaluated rows are linked. -/
theorem litterLinks_of_evaluated {entity : String} {rows : List Row}
    (found : litterRows? entity = some rows) : LitterLinks entity rows := by
  -- The plan was found and its statement was checked.
  obtain ⟨plan, planned, found⟩ := Option.bind_eq_some_iff.mp found
  split at found
  · rename_i sound
    exact ⟨plan, eq_ok_of_toOption planned, sound.1, sound.2, Plan.firstLinked_eq found⟩
  · contradiction

/--
A cap of one record for each owner does not keep a second one away.

A column that is named like the ranks stands in their place, so both cats are within the cap.
Two texts spell the number of the owner, and the first dog of each is kept.
No toy has a value in a joining field that is named like the ranks, and one is joined by its rank.
-/
theorem Service.more_rows_matched :
    litterRegistry.entityLimit (some ⟨[], some 1⟩) = some 1 ∧
    LitterLinks "Cat" [[.integer 1, .integer 1, .integer 0, .integer 1],
      [.integer 2, .integer 1, .integer 0, .integer 2]] ∧
    LitterLinks "Dog" [[.integer 1, .text "01", .integer 1], [.integer 2, .text "1", .integer 1]] ∧
    LitterLinks "Toy" [[.integer 7, .integer 1]] ∧
    (litterDatabase.tableOrEmpty "toy").ofKey "_RN" (.integer 1)
      (litterDatabase.tableOrEmpty "toy").rows = [] := by
  -- All three plans are evaluated.
  exact ⟨by decide +kernel, litterLinks_of_evaluated (by decide +kernel),
    litterLinks_of_evaluated (by decide +kernel), litterLinks_of_evaluated (by decide +kernel),
    by decide +kernel⟩

end Joinery
