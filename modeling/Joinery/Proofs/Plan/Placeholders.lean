import Joinery.Proofs.Filter.Pruning
import Joinery.Proofs.Plan.Binding
import Joinery.Proofs.Plan.JoinKeys
import Joinery.Proofs.Plan.Shape
import Joinery.Proofs.Schema.Naming
import Joinery.Proofs.Statement.Placeholders

/-! The places in the text of a planned statement are those of the values that are bound to it. -/

namespace Joinery

section Names

/-- No place begins in a name. -/
theorem placeless_of_isName {name : String} (named : isName name = true) : Placeless name := by
  rcases isName_iff.mp named with plain | ⟨plain, formed, rfl⟩
  · exact plain.not_mem (by decide)
  -- The line end that may follow a plain name is no colon.
  · rw [Placeless, String.toList_append, List.mem_append]
    exact not_or.mpr ⟨formed.not_mem (by decide), by decide⟩

/-- No place begins in the ranking terms of a well-formed entity. -/
theorem EntitySchema.WellFormed.placeless_order {entity : EntitySchema} (formed : entity.WellFormed) :
    Placeless (entity.defaultOrderBy.getD "") := by
  -- The order of an accepted entity is a list of names and directions, and no colon is in it.
  cases given : entity.defaultOrderBy with
  | none => decide
  | some order =>
    exact (EntitySchema.orderList_of_accepted formed.order given).not_mem (by decide) (by decide)
      (by decide) (by decide)

/-- A field of a well-formed entity has the form of a name. -/
theorem EntitySchema.WellFormed.isName_field {entity : EntitySchema} (formed : entity.WellFormed)
    {field : String} (declared : entity.declares field = true) : isName field = true := by
  -- A declared field is one of the fields, and these have been checked.
  obtain ⟨pair, member, same⟩ := List.any_eq_true.mp declared
  exact formed.fields field (List.mem_map.mpr ⟨pair, member, beq_iff_eq.mp same⟩)

end Names

variable {registry : Registry} {query : Query} {step : JoinStep}

/-- The fields that join two entities of a faultless registry have the form of names. -/
theorem Registry.Faultless.isName_joinKeys (faultless : registry.Faultless) {parentKey childKey : String}
    {parent child : EntitySchema} (parentIn : (parentKey, parent) ∈ registry.entities)
    (childIn : (childKey, child) ∈ registry.entities) :
    isName (joinKeys parent child).parent = true ∧ isName (joinKeys parent child).child = true := by
  have formed := EntitySchema.wellFormed_of_checked (faultless.entities _ _ parentIn)
  have formed' := EntitySchema.wellFormed_of_checked (faultless.entities _ _ childIn)
  have identifier := formed.isName_field formed.identifier
  unfold joinKeys
  -- The keys come from the parent's relationship, from the child's one, or from both identifiers.
  split
  · rename_i relationship found
    obtain ⟨other, member, _⟩ := EntitySchema.relationshipTo?_ok found
    have foreign := formed.isName_field (formed.foreignKeys _ member)
    refine ⟨foreign, ?_⟩
    rcases relationship.otherKey_cases with ⟨_, same⟩ | ⟨key, given, filled, same⟩
    · exact same ▸ foreign
    -- The field for the other side is one of the entity that the relationship leads to.
    · obtain ⟨target, leads, declared⟩ := exists_target faultless.targets parentIn member
      have reached := EntitySchema.wellFormed_of_checked
        (faultless.entities _ _ (Entries.mem_of_get? leads))
      exact same ▸ reached.isName_field (declared key given filled)
  · split
    · rename_i relationship back
      obtain ⟨other, member, _⟩ := EntitySchema.relationshipTo?_ok back
      exact ⟨identifier, formed'.isName_field (formed'.foreignKeys _ member)⟩
    · exact ⟨identifier, formed'.isName_field formed'.identifier⟩

/-- The columns in the predicates of a filter on a checked entity have the form of names. -/
theorem planFilter_isName {entity : EntitySchema} (formed : entity.WellFormed) {place : Nat}
    {filter : Option Filter} {planned : PlannedFilter}
    (built : planFilter entity place filter = .ok planned) :
    ∀ predicate ∈ planned.predicates, isName predicate.column = true := by
  -- The columns of the predicates are filter fields, and these have been checked as well.
  intro predicate member
  exact formed.isName_field (formed.filters _ (planFilter_columns built predicate member))

/-- A join of a plan is planned for one of its steps, with the predicates of that step's filter. -/
theorem Planning.exists_step (parts : Planning registry query) {join : Join}
    (member : join ∈ parts.plan.statement.joins) :
    ∃ step ∈ parts.order.steps, ∃ place filter,
      planFilter step.entity place step.filter = .ok filter ∧
        join = planJoin registry parts.order.steps step filter.predicates := by
  -- The steps are as many as the joins, and the filter of each one is planned at its turn.
  obtain ⟨i, at_⟩ := List.mem_iff_getElem?.mp member
  obtain ⟨step, _, placed, _, _⟩ := parts.step_at at_
  obtain ⟨filter, _, _, built, found, _⟩ := (planJoins_ok parts.joined).2 i step placed
  exact ⟨step, List.mem_of_getElem? placed, _, filter, built, Option.some.inj (at_.symm.trans found)⟩

/-- The names of a planned join are plain. -/
theorem Planning.plain_join (parts : Planning registry query) (faultless : registry.Faultless)
    {join : Join} (member : join ∈ parts.plan.statement.joins) : join.Plain := by
  -- The step and its parent stand in the registry, so all their names have been checked.
  obtain ⟨step, inside, place, filter, built, rfl⟩ := parts.exists_step member
  obtain ⟨childKey, childIn⟩ := parts.mem_entities inside
  obtain ⟨parentKey, parentIn⟩ := parts.parent_mem_entities inside
  have formed := EntitySchema.wellFormed_of_checked (faultless.entities _ _ childIn)
  obtain ⟨parent, child⟩ := faultless.isName_joinKeys parentIn childIn
  refine ⟨?_, ?_, ?_, fun ranking given => ?_, ?_⟩
  · rw [planJoin_table]
    exact placeless_of_isName formed.table
  · rw [planJoin_key]
    exact placeless_of_isName child
  · rw [planJoin_parent]
    exact placeless_of_isName parent
  · obtain ⟨key, order⟩ := planJoin_ranking _ _ _ _ ranking given
    exact ⟨key ▸ placeless_of_isName child, order ▸ formed.placeless_order⟩
  · rw [planJoin_predicates]
    exact fun predicate member => placeless_of_isName (planFilter_isName formed built predicate member)

/-- The names of a planned statement are plain, whatever its labels are. -/
theorem Planning.plain (parts : Planning registry query) (faultless : registry.Faultless) :
    parts.plan.statement.Plain := by
  have known {key : String} {entity : EntitySchema} (inside : (key, entity) ∈ registry.entities) :
      entity.WellFormed := EntitySchema.wellFormed_of_checked (faultless.entities key entity inside)
  obtain ⟨primaryKey, primaryIn⟩ := Registry.mem_entities_of_require parts.required
  have identifier {key : String} {entity : EntitySchema} (inside : (key, entity) ∈ registry.entities) :
      Placeless entity.identifierField :=
    placeless_of_isName ((known inside).isName_field (known inside).identifier)
  refine ⟨placeless_of_isName (known primaryIn).table,
    fun join member => parts.plain_join faultless member,
    fun predicate member => placeless_of_isName
      (planFilter_isName (known primaryIn) parts.narrowed predicate member), fun ref member => ?_⟩
  -- Rows are sorted by the identifiers of the entities.
  rcases List.mem_cons.mp member with rfl | joined
  · exact identifier primaryIn
  · obtain ⟨i, inside, rfl⟩ := List.mem_mapIdx.mp joined
    obtain ⟨key, entityIn⟩ := parts.mem_entities (List.getElem_mem inside)
    exact identifier entityIn

/-- The conditions of a query, those of its joins in their order and then those of its primary entity. -/
def Planning.pairs (parts : Planning registry query) : List (EntitySchema × Condition) :=
  stepPairs parts.order.steps ++ parts.primary.pairs (parts.primary.conditions query.filter)

/-- The conditions of a query bind one after the other. -/
theorem Planning.places (parts : Planning registry query) :
    Places 0 (binding parts.pairs)
      (parts.plan.statement.joins.flatMap Join.predicates ++ parts.plan.statement.conditions)
      parts.plan.parameters := by
  -- The joins bind first, and the primary filter binds behind them.
  have joins := planJoins_places parts.joined
  have main := planFilter_places parts.narrowed
  rw [← Query.requiredFilter_ok parts.filtered] at main
  have all := joins.append (by rwa [Nat.zero_add])
  rw [Planning.pairs, binding, List.filter_append]
  exact all

/-- The places of a plan are told by the conditions that bind, each one by its field and comparator. -/
theorem Plan.slots_eq {plan : Plan} {bound : List (EntitySchema × Condition)}
    (carried : List.Forall₂ Parameter.Carries bound plan.parameters) :
    plan.slots = bound.mapIdx fun place pair =>
      (placeholderName place, pair.1.fieldType pair.2.field, pair.2.comparator.takesArray) := by
  -- Parameter by parameter, what it carries fixes its type and whether it takes several values.
  have slots : plan.parameters.map Parameter.slot = bound.map fun pair =>
      (pair.1.fieldType pair.2.field, pair.2.comparator.takesArray) := by
    generalize plan.parameters = parameters at carried
    induction carried with
    | nil => rfl
    | cons head _ ih => rw [List.map_cons, List.map_cons, ih, Parameter.slot, head.type, head.several]
  refine List.ext_getElem? fun place => ?_
  have found := congrArg (fun slots => (slots[place]?).map (placeholderName place, ·)) slots
  rw [Plan.slots, List.getElem?_mapIdx, List.getElem?_mapIdx]
  simp only [List.getElem?_map, Option.map_map] at found
  exact found

/-- How the places of a plan, in the text of its statement and in what is bound, go with conditions. -/
structure Plan.PlacesAgree (plan : Plan) (bound : List (EntitySchema × Condition)) : Prop where
  /-- Behind the returned columns there are as many places in the text as conditions, in order. -/
  text : ∀ dialect : Dialect, ∃ tail, dialect.statement plan.statement =
      "SELECT " ++ ", ".intercalate (plan.statement.columns.map dialect.selected) ++ " FROM " ++ tail ∧
    placesIn tail = (List.range bound.length).map placeholderName
  /-- No place is there twice. -/
  distinct : ((List.range bound.length).map placeholderName).Nodup
  /-- The same places are bound, under the meanings of fields, and to several values where they are taken. -/
  slots : plan.slots = bound.mapIdx fun place pair =>
    (placeholderName place, pair.1.fieldType pair.2.field, pair.2.comparator.takesArray)
  /-- The bound values are of these meanings, or null. -/
  carried : List.Forall₂ Parameter.Carries bound plan.parameters
  /-- The place of a condition is read by the comparison of its field, and by no other predicate. -/
  compared : comparisons (plan.statement.joins.flatMap Join.predicates ++ plan.statement.conditions) =
    comparisonsFrom 0 bound

/--
The places in the text of a planned statement are exactly those of its parameters, in every dialect:
one for each condition that is not a test for null, join by join and last for the primary entity.
-/
theorem Registry.plan_places_bound {plan : Plan} (faultless : registry.Faultless)
    (planned : registry.plan query = .ok plan) :
    ∃ order, JoinOrder.ofRequests registry plan.primary query.related = .ok order ∧
      plan.PlacesAgree (binding (stepPairs order.steps ++
        plan.primary.pairs (plan.primary.conditions query.filter))) := by
  obtain ⟨parts, rfl⟩ := Registry.plan_ok planned
  -- The predicates read one place for each condition that binds, counted from zero.
  have places := parts.places
  have read : parts.plan.statement.placeholders = List.range (binding parts.pairs).length := by
    rw [Statement.placeholders, ← filterMap_comparisons, places.compared,
      comparisonsFrom_placeholders, List.range_eq_range']
  refine ⟨parts.order, parts.ordered, fun dialect => ?_,
    List.nodup_range.map placeholderName_injective, Plan.slots_eq places.carried, places.carried,
    places.compared⟩
  refine ⟨_, Dialect.statement_eq dialect _, ?_⟩
  rw [(parts.plain faultless).placesIn_tail dialect, read]
  rfl

/-- A query of named plans, with at most two of some products of each. -/
def productQuery : Query where
  primary := .text "Plan"
  filter := some ⟨[("name", .map [("$ne", .null), ("$like", .text ":p0")])], none⟩
  related := [⟨.text "Product", some ⟨[("id", .map [("$in", .list [.int 1, .null])])], some 2⟩, .null⟩]
  selectedEntities := []
  selectedFields := []
  maxRows := .null

/-- The products of the query bind several numbers, its plans one text. -/
theorem productQuery_places_bound : ∃ plan order,
    productRegistry.Faultless ∧ productRegistry.plan productQuery = .ok plan ∧
    JoinOrder.ofRequests productRegistry plan.primary productQuery.related = .ok order ∧
    plan.PlacesAgree (binding (stepPairs order.steps ++
      plan.primary.pairs (plan.primary.conditions productQuery.filter))) ∧
    plan.slots = [("p0", .integer, true), ("p1", .string, false)] := by
  -- The registry was read from a document, so it is faultless, and the query has a plan.
  have faultless := (Registry.consistent_of_ofDocument productRegistry_read).faultless
  have planned := eq_ok_get
    (show (productRegistry.plan productQuery).toOption.isSome = true by decide +kernel)
  obtain ⟨order, ordered, agree⟩ := Registry.plan_places_bound faultless planned
  exact ⟨_, order, faultless, planned, ordered, agree, by decide +kernel⟩

end Joinery
