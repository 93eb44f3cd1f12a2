import Joinery.Proofs.Filter.Respelling
import Joinery.Proofs.Plan.Parts
import Joinery.Proofs.Plan.Refiltering
import Joinery.Proofs.Result.Retelling

/-! A query spelled in other letters has the same plan, but for the words of what it leaves out. -/

namespace Joinery

/-- Two names that are the same, or texts with the same letters. -/
inductive Value.SameName : Value → Value → Prop where
  /-- They do not differ. -/
  | same (name : Value) : Value.SameName name name
  /-- One text is spelled in other letters. -/
  | text {name other : String} (letters : SameLetters name other) :
    Value.SameName (.text name) (.text other)

/-- The wording in which names, keys, operators and texts are spelled in other letters. -/
def Wording.letterCase : Wording where
  names := Value.SameName
  texts := SameLetters
  documents := Value.RespelledDocument
  filters := Filter.Respelled
  unnamed := .same .null
  folded := fun _ _ letters => letters.lowered
  read := fun _ _ respelled => respelled.filters

/-- The filters of an entity in two spellings. -/
def FilterRelation.respelled : FilterRelation :=
  fun _ filter other => Option.Rel Filter.Respelled filter other

/-- Two plans that differ in the spelling of what they leave out, and in how often a kept field is listed. -/
structure Plan.Respelled (plan other : Plan) : Prop where
  /-- The statement is the same. -/
  statement : other.statement = plan.statement
  /-- The same is bound to its places. -/
  parameters : other.parameters = plan.parameters
  /-- The primary entity is the same. -/
  primary : other.primary = plan.primary
  /-- The same entities are joined in the same order. -/
  related : other.related = plan.related
  /-- The cap on joined rows is the same. -/
  rowLimit : other.rowLimit = plan.rowLimit
  /-- The same warnings come up in planning. -/
  warnings : other.warnings = plan.warnings
  /-- The same entities are kept. -/
  selectedEntities : other.selectedEntities = plan.selectedEntities
  /-- The same fields are kept. -/
  selectedFields : Entries.Beside SameMembers plan.selectedFields other.selectedFields
  /-- The same fields are left out, in their own spelling. -/
  rejectedFields : List.Forall₂ SameLetters plan.rejectedFields other.rejectedFields

variable {registry : Registry} {query asked : Query} {primary : EntitySchema}

/-- Texts with the same letters are empty together. -/
theorem SameLetters.eq_empty {text other : String} (letters : SameLetters text other) :
    other = "" ↔ text = "" := by
  -- A change of case keeps the length.
  have length := congrArg List.length letters
  rw [List.length_map, List.length_map] at length
  rw [← String.toList_eq_nil_iff, ← String.toList_eq_nil_iff, ← List.length_eq_zero_iff,
    ← List.length_eq_zero_iff, length]

/-- A name in other letters counts as one when it does in these. -/
theorem Value.SameName.truthy {name other : Value} (same : name.SameName other) :
    other.truthy = name.truthy := by
  -- A text counts when it is not empty, in any letters.
  cases same with
  | same => rfl
  | text letters => simp only [Value.truthy, ne_eq, letters.eq_empty]

/-- A registry finds the same entity under a name in other letters, or none. -/
theorem Registry.require_respelled (registry : Registry) {name other : Value}
    (same : name.SameName other) :
    LikeOutcome PlanFault.Respelled Eq (registry.require name) (registry.require other) := by
  -- The lookup takes the name in lower case.
  cases same with
  | same => exact .refl .same (fun _ => rfl) _
  | @text name other letters =>
    have truthy := (Value.SameName.text letters).truthy
    have found : registry.lookup? other = registry.lookup? name := by
      simp only [Registry.lookup?, letters.eq_empty, letters.lowered]
    rw [Registry.require, Registry.require, truthy, found]
    split
    · cases registry.lookup? name with
      | none => exact .fault (.rejected (.unknownEntity letters))
      | some entity => exact .success rfl
    · exact .fault (.rejected (.unknownEntity letters))

/-- Requests in other letters are resolved to the same entities, or refused alike. -/
theorem resolveRequests_respelled {seen : List String} {requests others : List RelatedRequest}
    (retold : List.Forall₂ (RelatedRequest.Retold .letterCase) requests others) :
    LikeOutcome PlanFault.Respelled (List.Forall₂ (JoinStep.Refiltered .respelled))
      (resolveRequests registry primary seen requests)
      (resolveRequests registry primary seen others) := by
  -- Both spellings lead to one entity, so the entities seen before are the same as well.
  induction retold generalizing seen with
  | nil => exact .success .nil
  | @cons request other rest more head _ ih =>
    rw [resolveRequests, resolveRequests]
    refine (registry.require_respelled head.entity).bind fun entity _ same => ?_
    subst same
    have joined (parent : EntitySchema) :
        LikeOutcome PlanFault.Respelled (List.Forall₂ (JoinStep.Refiltered .respelled))
          (resolveRequests registry primary (entity.key :: seen) rest >>= fun later =>
            pure (⟨entity, parent, request.filter⟩ :: later))
          (resolveRequests registry primary (entity.key :: seen) more >>= fun later =>
            pure (⟨entity, parent, other.filter⟩ :: later)) :=
      ih.bind fun _ _ later => .success (.cons ⟨rfl, rfl, head.filter⟩ later)
    split
    · exact .fault (.same _)
    · -- Both name a parent, or neither does.
      dsimp only
      rw [Value.SameName.truthy head.parent]
      split
      · exact (registry.require_respelled head.parent).bind fun parent _ hung => hung ▸ joined parent
      · exact joined primary

/-- They are put in the same order, or refused alike. -/
theorem JoinOrder.ofRequests_respelled {requests others : List RelatedRequest}
    (retold : List.Forall₂ (RelatedRequest.Retold .letterCase) requests others) :
    LikeOutcome PlanFault.Respelled (JoinOrder.Refiltered .respelled)
      (ofRequests registry primary requests) (ofRequests registry primary others) :=
  -- The names are resolved alike, and from there on only filters differ.
  (resolveRequests_respelled retold).bind fun _ _ same =>
    (orderResolved_refiltered same).like .same

/-- The caps of respelled filters are the same. -/
theorem Registry.entityLimit_respelled (registry : Registry) {filter other : Option Filter}
    (respelled : Option.Rel Filter.Respelled filter other) :
    registry.entityLimit other = registry.entityLimit filter := by
  -- A cap is none of the letters.
  cases respelled with
  | none => rfl
  | some same => simp only [Registry.entityLimit, Option.bind_some, same.limit]

/-- Two lists of planned joins that differ in the spelling of what their filters leave out. -/
structure PlannedJoins.Respelled (planned other : PlannedJoins) : Prop where
  /-- The joins are the same. -/
  joins : other.joins = planned.joins
  /-- The same is bound to their places. -/
  parameters : other.parameters = planned.parameters
  /-- The same fields are left out, in their own spelling. -/
  rejected : List.Forall₂ SameLetters planned.rejected other.rejected

/-- Joins are planned alike, and what they leave out is spelled in other letters. -/
theorem planJoins_respelled {all others steps more : List JoinStep}
    (whole : List.Forall₂ (JoinStep.Refiltered .respelled) all others)
    (same : List.Forall₂ (JoinStep.Refiltered .respelled) steps more) (place : Nat) :
    LikeOutcome PlanFault.Respelled PlannedJoins.Respelled
      (planJoins registry all place steps) (planJoins registry others place more) := by
  -- Each join binds the same values, so the next one begins at the same place.
  induction same generalizing place with
  | nil => exact .success ⟨rfl, rfl, .nil⟩
  | @cons step other _ _ head _ ih =>
    have cap := registry.entityLimit_respelled head.filter
    rw [planJoins, planJoins, head.entity, Registry.checkEntityLimit, Registry.checkEntityLimit, cap]
    refine (planFilter_respelled head.filter place).bind fun filter _ own => ?_
    refine (LikeOutcome.refl PlanFault.Respelled.same (fun _ => rfl) _).bind fun _ _ _ => ?_
    rw [own.predicates, own.parameters]
    refine (ih _).bind fun _ _ later => .success ⟨?_, ?_, ?_⟩
    · rw [planJoin_refiltered head whole cap, later.joins]
    · dsimp only
      rw [later.parameters]
    · exact List.rel_append own.rejected later.rejected

/-- A query in other letters is planned alike, or refused in other letters. -/
theorem Registry.plan_respelled (registry : Registry) (retold : query.Retold .letterCase asked) :
    LikeOutcome PlanFault.Respelled Plan.Respelled (registry.plan query) (registry.plan asked) := by
  have capped : asked.plannedCap registry = query.plannedCap registry := by
    rw [Query.plannedCap, Query.plannedCap, retold.maxRows]
  rw [Registry.plan, Registry.plan, Value.SameName.truthy retold.primary, capped]
  split
  · exact .fault (.same _)
  have required : SameOutcome Filter.Respelled query.requiredFilter asked.requiredFilter :=
    Query.requiredFilter_related (fun _ _ => Filter.Respelled.isEmpty) retold.filter
  refine (required.like .same).bind fun filter _ filters => ?_
  refine (registry.require_respelled retold.primary).bind fun primary _ same => ?_
  subst same
  refine (JoinOrder.ofRequests_respelled retold.related).bind fun order _ ordered => ?_
  refine (planJoins_respelled ordered.steps ordered.steps 0).bind fun joins _ joined => ?_
  rw [joined.parameters]
  refine (planFilter_respelled (.some filters) _).bind fun main _ narrowed => ?_
  refine (LikeOutcome.refl PlanFault.Respelled.same (fun _ => rfl) _).bind fun caps _ same => ?_
  subst same
  -- The columns and their order depend on the joined entities alone.
  refine .success ⟨?_, ?_, rfl, refiltered_entities ordered.steps, rfl, ordered.warnings primary,
    retold.selectedEntities, retold.keptFields, List.rel_append joined.rejected narrowed.rejected⟩
  · simp only [plannedColumns_refiltered ordered.steps, plannedOrder_refiltered ordered.steps,
      joined.joins, narrowed.predicates]
  · simp only [narrowed.parameters]

end Joinery
