import Joinery.Proofs.Database.Reaching
import Joinery.Proofs.Filter.Admission
import Joinery.Proofs.Plan.JoinOrder
import Joinery.Proofs.Plan.Parts
import Joinery.Proofs.Schema.Loading

/-! A planned statement reaches the rows that chains of parents connect to a primary row. -/

namespace Joinery

/-- The table that holds the records of an entity. -/
def Database.recordsOf (database : Database) (entity : EntitySchema) : Relation :=
  database.tableOrEmpty entity.tableName

/-- Whether a child's row has the value of its parent's row in the fields that join the two. -/
def Database.agree (database : Database) (parent child : EntitySchema) (parentRow row : Row) :
    Bool :=
  let keys := joinKeys parent child
  columnsAgree (database.recordsOf child) (readBack keys.child) (database.recordsOf parent)
    (readBack keys.parent) row parentRow

/-- The rows of each entity that a chain of admitted rows connects to an admitted primary row. -/
inductive Connected (database : Database) (primary : EntitySchema) (filter : Option Filter)
    (steps : List JoinStep) : EntitySchema → Row → Prop
  /-- The primary rows that the filter admits begin the chains. -/
  | primary {row : Row} (member : row ∈ (database.recordsOf primary).rows)
    (admitted : primary.admits filter (database.recordsOf primary) row = true) :
    Connected database primary filter steps primary row
  /-- An admitted row goes on from a connected row of the parent that it agrees with. -/
  | joined {step : JoinStep} {parentRow row : Row} (inside : step ∈ steps)
    (parent : Connected database primary filter steps step.parent parentRow)
    (member : row ∈ (database.recordsOf step.entity).rows)
    (admitted : step.entity.admits step.filter (database.recordsOf step.entity) row = true)
    (agree : database.agree step.parent step.entity parentRow row = true) :
    Connected database primary filter steps step.entity row

variable {registry : Registry} {query : Query} {database : Database} {step : JoinStep}

/-- The entities of a plan, the primary one first, in the order of their sources. -/
def Planning.entities (parts : Planning registry query) : List EntitySchema :=
  parts.primary :: parts.order.steps.map (·.entity)

/-- An entity at its place among the steps is one of the entities of the plan. -/
theorem Planning.entity_at (parts : Planning registry query) {i : Nat}
    (at_ : parts.order.steps[i]? = some step) : parts.entities[i + 1]? = some step.entity := by
  -- The primary entity stands before all steps.
  simp [entities, at_]

/-- The joins of a plan are in a sound order. -/
theorem Planning.sound (parts : Planning registry query) :
    JoinOrder.Sound registry parts.primary query.related parts.order.steps := by
  -- The order was found for the requests of the query.
  exact JoinOrder.ofRequests_sound parts.ordered

/-- No two sources of a plan have entities of one name. -/
theorem Planning.entities_unique (parts : Planning registry query) {i j : Nat}
    {a b : EntitySchema} (atA : parts.entities[i]? = some a) (atB : parts.entities[j]? = some b)
    (same : a.key = b.key) : i = j := by
  -- The names are distinct in a sound order.
  have distinct : (parts.entities.map (·.key)).Nodup := by
    simpa [entities, Function.comp_def] using parts.sound.distinct
  obtain ⟨inside, _⟩ := List.getElem?_eq_some_iff.mp atA
  refine (List.getElem?_inj (by simpa using inside) distinct).mp ?_
  rw [List.getElem?_map, List.getElem?_map, atA, atB, Option.map_some, Option.map_some, same]

/-- Each step has its join, with predicates that hold of the rows that its filter admits. -/
theorem Planning.join_at (parts : Planning registry query) {i : Nat}
    (at_ : parts.order.steps[i]? = some step) :
    ∃ predicates, parts.plan.statement.joins[i]? =
        some (planJoin registry parts.order.steps step predicates) ∧
      ∀ relation row, satisfies predicates parts.plan.parameters relation row =
        step.entity.admits step.filter relation row := by
  -- The values of its predicates stand between those of the joins before it and after it.
  obtain ⟨filter, before, after, planned, found, values⟩ :=
    (planJoins_ok parts.joined).2 i step at_
  refine ⟨filter.predicates, found, fun relation row => ?_⟩
  rw [Nat.zero_add] at planned
  have admits := planFilter_satisfies (after ++ parts.main.parameters) planned relation row
  simpa [Planning.plan, values] using admits

/-- There are as many joins as steps. -/
theorem Planning.joins_length (parts : Planning registry query) :
    parts.plan.statement.joins.length = parts.order.steps.length := by
  -- Joins are planned one for one.
  exact (planJoins_ok parts.joined).1

/-- The primary predicates hold of the rows that the filter of the query admits. -/
theorem Planning.main_satisfies (parts : Planning registry query) (relation : Relation) (row : Row) :
    satisfies parts.plan.statement.conditions parts.plan.parameters relation row =
      parts.primary.admits query.filter relation row := by
  -- The values of the primary predicates come last.
  rw [Query.requiredFilter_ok parts.filtered]
  simpa [Planning.plan] using
    planFilter_satisfies [] parts.narrowed relation row

/-- The primary rows of a planned statement are those that the filter of the query admits. -/
theorem Planning.mem_primaryRows (parts : Planning registry query) {row : Row} :
    row ∈ parts.plan.statement.primaryRows database parts.plan.parameters ↔
      row ∈ (database.recordsOf parts.primary).rows ∧
        parts.primary.admits query.filter (database.recordsOf parts.primary) row = true := by
  -- The table is restricted by the primary predicates.
  rw [Statement.primaryRows, Relation.restrict, List.mem_filter, parts.main_satisfies]
  rfl

/-- Every join belongs to a step, with predicates that hold of the rows that its filter admits. -/
theorem Planning.step_at (parts : Planning registry query) {i : Nat} {join : Join}
    (at_ : parts.plan.statement.joins[i]? = some join) :
    ∃ step predicates, parts.order.steps[i]? = some step ∧
      join = planJoin registry parts.order.steps step predicates ∧
      ∀ relation row, satisfies predicates parts.plan.parameters relation row =
        step.entity.admits step.filter relation row := by
  -- The steps are as many as the joins.
  obtain ⟨inside, _⟩ := List.getElem?_eq_some_iff.mp at_
  rw [parts.joins_length] at inside
  obtain ⟨predicates, found, admits⟩ := parts.join_at (List.getElem?_eq_getElem inside)
  exact ⟨_, predicates, List.getElem?_eq_getElem inside,
    Option.some.inj (at_.symm.trans found), admits⟩

/-- Every join of a planned statement hangs from a source before it. -/
theorem Planning.parentsBefore (parts : Planning registry query) :
    parts.plan.statement.ParentsBefore := by
  -- The parent of a step is the primary source or that of an earlier step.
  intro i join at_
  obtain ⟨step, predicates, placed, rfl, _⟩ := parts.step_at at_
  rw [planJoin_parent]
  rcases parts.sound.parent_place placed with ⟨_, zero⟩ | ⟨j, _, before, _, _, succ⟩
  · exact zero ▸ Nat.zero_le i
  · exact succ ▸ before

/-- The parent of a step was found in the registry. -/
theorem Planning.parent_required (parts : Planning registry query)
    (inside : step ∈ parts.order.steps) : ∃ name, registry.require name = .ok step.parent := by
  -- It is the primary entity or the parent that some request names.
  rcases parts.sound.parents step inside with main | ⟨request, _, found⟩
  · exact ⟨query.primary, main ▸ parts.required⟩
  · exact ⟨request.parent, found⟩

/-- An entity that a registry finds stands in it. -/
theorem Registry.mem_entities_of_require {name : Value} {entity : EntitySchema}
    (found : registry.require name = .ok entity) : ∃ key, (key, entity) ∈ registry.entities := by
  -- An entity is found under its name in lower case.
  obtain ⟨s, _, located⟩ := Registry.require_ok found
  exact ⟨lowered s, Entries.mem_of_get? located⟩

/-- The entity that a step joins stands in the registry. -/
theorem Planning.mem_entities (parts : Planning registry query) (inside : step ∈ parts.order.steps) :
    ∃ key, (key, step.entity) ∈ registry.entities := by
  -- The step was made for a request, whose entity was looked up.
  obtain ⟨request, _, required, _⟩ := parts.sound.requested step inside
  exact Registry.mem_entities_of_require required

/-- Every entity of a plan stands in the registry. -/
theorem Planning.registered (parts : Planning registry query) {entity : EntitySchema}
    (member : entity ∈ parts.entities) : ∃ key, (key, entity) ∈ registry.entities := by
  -- The primary entity was looked up as well.
  rcases List.mem_cons.mp member with rfl | related
  · exact Registry.mem_entities_of_require parts.required
  · obtain ⟨step, inside, rfl⟩ := List.mem_map.mp related
    exact parts.mem_entities inside

/-- So does the entity that a step joins it to. -/
theorem Planning.parent_mem_entities (parts : Planning registry query)
    (inside : step ∈ parts.order.steps) : ∃ key, (key, step.parent) ∈ registry.entities := by
  -- Requests name their parents, too, or have the primary entity as one.
  obtain ⟨name, required⟩ := parts.parent_required inside
  exact Registry.mem_entities_of_require required

/-- The source that a join hangs from is that of the entity that it was asked to hang from. -/
theorem Planning.parent_entity (parts : Planning registry query) (loaded : registry.Loaded) {i : Nat}
    (at_ : parts.order.steps[i]? = some step) :
    parts.entities[sourceOf parts.order.steps step.parent]? = some step.parent := by
  -- Both have one name, and a name stands for one entity of a loaded registry.
  obtain ⟨name, found⟩ := parts.parent_required (List.mem_of_getElem? at_)
  rcases parts.sound.parent_place at_ with ⟨same, zero⟩ | ⟨j, other, _, placed, same, succ⟩
  · rw [zero, loaded.eq_of_key found parts.required same]
    rfl
  · obtain ⟨request, _, required, _⟩ := parts.sound.requested other (List.mem_of_getElem? placed)
    rw [succ, ← loaded.eq_of_key required found same]
    simp [entities, placed]

/-- Without caps the sources of a planned statement are the tables of its entities. -/
theorem Planning.source_uncapped (parts : Planning registry query) (database : Database)
    (uncapped : ∀ step ∈ parts.order.steps, registry.entityLimit step.filter = none) {source : Nat}
    {entity : EntitySchema} (at_ : parts.entities[source]? = some entity) :
    sourceAt (parts.plan.statement.sources database parts.plan.parameters) source =
      database.recordsOf entity := by
  -- The primary table is source zero, and a join without a cap matches its whole table.
  cases source with
  | zero =>
    cases at_
    rfl
  | succ i =>
    simp only [entities, List.getElem?_cons_succ, List.getElem?_map, Option.map_eq_some_iff] at at_
    obtain ⟨step, placed, rfl⟩ := at_
    obtain ⟨predicates, found, _⟩ := parts.join_at placed
    rw [Statement.sourceAt_succ found]
    simp only [planJoin, uncapped step (List.mem_of_getElem? placed)]
    rfl

/-- Without caps a join links the rows that agree with their parent's row and are admitted. -/
theorem Planning.links_uncapped (parts : Planning registry query) (loaded : registry.Loaded)
    (uncapped : ∀ step ∈ parts.order.steps, registry.entityLimit step.filter = none) {i : Nat}
    (at_ : parts.order.steps[i]? = some step) {predicates : List Predicate}
    (admits : ∀ relation row, satisfies predicates parts.plan.parameters relation row =
      step.entity.admits step.filter relation row) (parentRow row : Row) :
    (planJoin registry parts.order.steps step predicates).links
        (parts.plan.statement.sources database parts.plan.parameters)
        (database.recordsOf step.entity) parts.plan.parameters parentRow row =
      (database.agree step.parent step.entity parentRow row &&
        step.entity.admits step.filter (database.recordsOf step.entity) row) := by
  -- The predicates stand beside the keys, and the parent's source is its table.
  have source := parts.source_uncapped database uncapped
    (parts.parent_entity loaded at_)
  simp only [Join.links, planJoin, uncapped step (List.mem_of_getElem? at_), source, admits]
  rfl

/-- Without caps the rows that a planned statement reaches are the connected ones. -/
theorem Planning.connected_of_reaches (parts : Planning registry query) (loaded : registry.Loaded)
    (uncapped : ∀ step ∈ parts.order.steps, registry.entityLimit step.filter = none) {source : Nat}
    {row : Row}
    (reached : parts.plan.statement.Reaches database parts.plan.parameters source row)
    {entity : EntitySchema} (at_ : parts.entities[source]? = some entity) :
    Connected database parts.primary query.filter parts.order.steps entity row := by
  -- Each join that the statement goes along is a step of the chain.
  induction reached generalizing entity with
  | primary member =>
    cases at_
    obtain ⟨inside, admitted⟩ := parts.mem_primaryRows.mp member
    exact .primary inside admitted
  | @joined i _ _ _ placed _ member linked ih =>
    obtain ⟨step, predicates, found, rfl, admits⟩ := parts.step_at placed
    have own := parts.entity_at found
    cases own.symm.trans at_
    rw [planJoin_parent] at ih
    have table := parts.source_uncapped database uncapped own
    rw [Statement.sourceAt_succ placed] at table
    rw [table, parts.links_uncapped loaded uncapped found admits, Bool.and_eq_true] at linked
    exact .joined (List.mem_of_getElem? found) (ih (parts.parent_entity loaded found))
      (table ▸ member) linked.2 linked.1

/-- Without caps a planned statement reaches every connected row at the source of its entity. -/
theorem Planning.reaches_of_connected (parts : Planning registry query) (loaded : registry.Loaded)
    (uncapped : ∀ step ∈ parts.order.steps, registry.entityLimit step.filter = none)
    {entity : EntitySchema} {row : Row}
    (connected : Connected database parts.primary query.filter parts.order.steps entity row) :
    ∃ source, parts.entities[source]? = some entity ∧
      parts.plan.statement.Reaches database parts.plan.parameters source row := by
  -- Each step of the chain is a join, and the parent's row is reached at the parent's source.
  induction connected with
  | primary member admitted => exact ⟨0, rfl, .primary (parts.mem_primaryRows.mpr ⟨member, admitted⟩)⟩
  | @joined step parentRow row inside _ member admitted agree ih =>
    obtain ⟨i, placed⟩ := List.mem_iff_getElem?.mp inside
    obtain ⟨source, atParent, reached⟩ := ih
    obtain ⟨predicates, found, admits⟩ := parts.join_at placed
    have own := parts.entity_at placed
    have table := parts.source_uncapped database uncapped own
    rw [Statement.sourceAt_succ found] at table
    have same := parts.entities_unique (parts.parent_entity loaded placed) atParent rfl
    have parent : parts.plan.statement.Reaches database parts.plan.parameters
        (planJoin registry parts.order.steps step predicates).parent.source parentRow := by
      rw [planJoin_parent]
      exact same ▸ reached
    refine ⟨i + 1, own, .joined found parent (table ▸ member) ?_⟩
    rw [table, parts.links_uncapped loaded uncapped placed admits, agree, admitted, Bool.and_self]

end Joinery
