import Joinery.Customers.Entities
import Joinery.Proofs.Plan.Chains
import Joinery.Proofs.Schema.Relationships

/-! Planned joins compare fields that their entities have, but for one kind of relationship. -/

namespace Joinery

/--
Of two entities of a registry that was read, the parent has the field that joins it. The child has its
field too, unless a relationship of the parent leaves it open.

The joins of a plan compare these two fields, and rank by the one of the child.
-/
theorem Registry.join_keys_declared_iff {document : Value} {registry : Registry}
    (read : ofDocument document = .ok registry) :
    (∀ parentKey childKey parent child, (parentKey, parent) ∈ registry.entities →
      (childKey, child) ∈ registry.entities →
      parent.declares (joinKeys parent child).parent = true ∧
        (child.declares (joinKeys parent child).child = true ↔ parent.leavesOpen child = false)) ∧
    ∀ query plan, registry.plan query = .ok plan → ∃ order,
      JoinOrder.ofRequests registry plan.primary query.related = .ok order ∧
        ∀ join ∈ plan.statement.joins, ∃ step ∈ order.steps,
          join.table = step.entity.tableName ∧ step.parent.declares join.parent.column = true ∧
            (step.entity.declares join.key = true ↔ step.parent.leavesOpen step.entity = false) ∧
            ∀ ranking ∈ join.ranking, ranking.key = join.key := by
  have consistent := consistent_of_ofDocument read
  refine ⟨fun parentKey childKey parent child parentIn childIn => ?_, fun query plan planned => ?_⟩
  · exact ⟨consistent.declares_parentKey parentIn child,
      consistent.declares_childKey_iff parentIn childIn⟩
  · obtain ⟨parts, rfl⟩ := Registry.plan_ok planned
    refine ⟨parts.order, parts.ordered, fun join member => ?_⟩
    -- Every join belongs to a step, and the entities of the step stand in the registry.
    obtain ⟨i, at_⟩ := List.mem_iff_getElem?.mp member
    obtain ⟨step, predicates, placed, rfl, _⟩ := parts.step_at at_
    have inside := List.mem_of_getElem? placed
    obtain ⟨parentKey, parentIn⟩ := parts.parent_mem_entities inside
    obtain ⟨childKey, childIn⟩ := parts.mem_entities inside
    refine ⟨step, inside, planJoin_table .., ?_, ?_, ?_⟩
    · rw [planJoin_parent]
      exact consistent.declares_parentKey parentIn step.entity
    · rw [planJoin_key]
      exact consistent.declares_childKey_iff parentIn childIn
    · intro ranking given
      rw [planJoin_key]
      exact (planJoin_ranking registry parts.order.steps step predicates ranking given).1

/-- The document of plans and products, in which each product leads to its plan. -/
def productDocument : Value :=
  .map [("entities", .map [
    ("Plan", entityDocument "plan" [("id", "integer"), ("name", "string")] ["name"] .null []),
    ("Product", entityDocument "product" [("id", "integer"), ("plan_id", "integer")] ["id"] .null
      [("Plan", .map [("foreignKey", .text "plan_id")])])])]

/-- The registry of plans and products. -/
def productRegistry : Registry :=
  (Registry.ofDocument productDocument).toOption.get (by decide +kernel)

/-- The registry was read from the document. -/
theorem productRegistry_read : Registry.ofDocument productDocument = .ok productRegistry := by
  exact eq_ok_get (by decide +kernel)

/-- The entity of plans. -/
def planEntity : EntitySchema := (productRegistry.entities.get? "plan").get (by decide +kernel)

/-- The entity of products. -/
def productEntity : EntitySchema :=
  (productRegistry.entities.get? "product").get (by decide +kernel)

/-- Plans stand in the registry. -/
theorem planEntity_mem : ("plan", planEntity) ∈ productRegistry.entities := by
  exact Entries.mem_of_get? (Option.some_get _).symm

/-- So do products. -/
theorem productEntity_mem : ("product", productEntity) ∈ productRegistry.entities := by
  exact Entries.mem_of_get? (Option.some_get _).symm

/-- Products that are joined to their plan are joined by a field that they have. -/
theorem productEntity_join_key_declared :
    Registry.ofDocument productDocument = .ok productRegistry ∧
    ("plan", planEntity) ∈ productRegistry.entities ∧
    ("product", productEntity) ∈ productRegistry.entities ∧
    joinKeys planEntity productEntity = ⟨"id", "plan_id"⟩ ∧
    planEntity.declares (joinKeys planEntity productEntity).parent = true ∧
    productEntity.declares (joinKeys planEntity productEntity).child = true := by
  -- The registry was read from a document, and the rule of the child side is met by the relationship.
  obtain ⟨parent, child⟩ := (Registry.join_keys_declared_iff productRegistry_read).1 _ _ _ _
    planEntity_mem productEntity_mem
  exact ⟨productRegistry_read, planEntity_mem, productEntity_mem, by decide +kernel, parent,
    child.mpr (by decide +kernel)⟩

/--
A plan that is joined to its products is joined by a field that it does not have.

So is a subscription of customers that is joined to its products.
-/
theorem Registry.join_key_not_declared :
    ¬ (∀ document registry, Registry.ofDocument document = .ok registry →
      ∀ parentKey childKey parent child, (parentKey, parent) ∈ registry.entities →
        (childKey, child) ∈ registry.entities →
        child.declares (joinKeys parent child).child = true) ∧
    (product.key, product) ∈ customerRegistry.entities ∧
    (subscription.key, subscription) ∈ customerRegistry.entities ∧
    joinKeys product subscription = ⟨"subscription_id", "subscription_id"⟩ ∧
    subscription.declares "subscription_id" = false := by
  -- From products back to their plan, the key of the parent side is taken, which the plan does not have.
  refine ⟨fun declared => ?_, by decide +kernel, by decide +kernel, by decide +kernel,
    by decide +kernel⟩
  have missing : planEntity.declares (joinKeys productEntity planEntity).child = false := by
    decide +kernel
  have given := declared _ _ productRegistry_read _ _ _ _ productEntity_mem planEntity_mem
  exact absurd given (by simp [missing])

end Joinery
