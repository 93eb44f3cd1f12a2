import Joinery.Query.Basic
import Joinery.Query.Fault
import Joinery.Schema.Basic

/-! Related entities are joined after the entity that they hang from. -/

namespace Joinery

/-- A related entity, the entity that it is joined to, and its filter. -/
structure JoinStep where
  /-- The related entity. -/
  entity : EntitySchema
  /-- The entity that it is joined to. -/
  parent : EntitySchema
  /-- Which of its records are wanted. -/
  filter : Option Filter
  deriving Repr

/-- The entity of a name, which has to be there. -/
def Registry.require (registry : Registry) (name : Value) : Except PlanFault EntitySchema :=
  if name.truthy then
    match name with
    | .text s =>
      match registry.lookup? s with
      | some entity => .ok entity
      | none => .error (.rejected (.unknownEntity s))
    | _ => .error (.misuse .noSuchMember)
  else .error (.rejected (.unknownEntity name.plain))

/-- The entities of the requests and of their parents; no entity may come twice. -/
def resolveRequests (registry : Registry) (primary : EntitySchema) :
    List String → List RelatedRequest → Except PlanFault (List JoinStep)
  | _, [] => .ok []
  | seen, request :: rest => do
    let entity ← registry.require request.entity
    if seen.contains entity.key then .error (.rejected (.repeatedEntity entity.name))
    else
      let parent ←
        if request.parent.truthy then registry.require request.parent else .ok primary
      let others ← resolveRequests registry primary (entity.key :: seen) rest
      return ⟨entity, parent, request.filter⟩ :: others

/-- Whether an entity is the primary one or a requested one. -/
def isPresent (primary : EntitySchema) (requests : List JoinStep) (entity : EntitySchema) : Bool :=
  entity.key == primary.key || requests.any (·.entity.key == entity.key)

/-- Whether the parent of a request is among the joined entities. -/
def JoinStep.isReady (joined : List String) (step : JoinStep) : Bool :=
  joined.contains step.parent.key

/-- The requests of which the parent is not joined are joined to the primary entity. -/
def joinRemaining (primary : EntitySchema) : List String → List JoinStep → List JoinStep
  | _, [] => []
  | joined, step :: rest =>
    (if step.isReady joined then step else { step with parent := primary }) ::
      joinRemaining primary (step.entity.key :: joined) rest

/-- The join steps in order, and those that no chain of parents leads to. -/
structure JoinOrder where
  /-- The steps in order. -/
  steps : List JoinStep
  /-- The requests that no chain of parents connects to the primary entity. -/
  unreachable : List JoinStep
  deriving Repr

/-- The requests of which the parent is joined. -/
def readySteps (joined : List String) (pending : List JoinStep) : List JoinStep :=
  pending.filter (·.isReady joined)

/-- The requests of which the parent is not joined. -/
def waitingSteps (joined : List String) (pending : List JoinStep) : List JoinStep :=
  pending.filter (!·.isReady joined)

/-- Some request being ready, fewer are waiting. -/
theorem waitingSteps_length_lt {joined : List String} {pending : List JoinStep}
    (occupied : readySteps joined pending ≠ []) :
    (waitingSteps joined pending).length < pending.length := by
  -- A request that is ready is one of the pending ones and is not waiting any more.
  rw [waitingSteps, List.length_filter_lt_length_iff_exists]
  obtain ⟨step, member⟩ := List.exists_mem_of_ne_nil _ occupied
  rw [readySteps, List.mem_filter] at member
  exact ⟨step, member.1, by simp [member.2]⟩

/--
Joins layer by layer: first what hangs from the primary entity, then what hangs from that.

When nothing hangs from the joined entities any more, the parents of the rest form a circle.
-/
def joinLayers (primary : EntitySchema) (joined : List String) (pending : List JoinStep) :
    JoinOrder :=
  if _stuck : readySteps joined pending = [] then ⟨joinRemaining primary joined pending, pending⟩
  else
    let layer := readySteps joined pending
    let rest := joinLayers primary (layer.map (·.entity.key) ++ joined) (waitingSteps joined pending)
    ⟨layer ++ rest.steps, rest.unreachable⟩
termination_by pending.length
decreasing_by exact waitingSteps_length_lt _stuck

/-- The warning about requests that could not be ordered. -/
def circularWarning (primary : EntitySchema) (requests : List JoinStep) : PlanningWarning :=
  let names := requests.map (·.entity.name)
  ⟨"Could not order joins for " ++ ", ".intercalate names ++
    " (circular parents); entities whose parent is not yet joined are joined to " ++ primary.name,
   names⟩

/-- The warnings about an order of joins. -/
def JoinOrder.warnings (order : JoinOrder) (primary : EntitySchema) : List PlanningWarning :=
  if order.unreachable.isEmpty then [] else [circularWarning primary order.unreachable]

/-- The order of joins for requests that are known and have their parents in the query. -/
def JoinOrder.ofRequests (registry : Registry) (primary : EntitySchema)
    (requests : List RelatedRequest) : Except PlanFault JoinOrder := do
  let resolved ← resolveRequests registry primary [primary.key] requests
  match resolved.find? fun step => !isPresent primary resolved step.parent with
  | some step => .error (.rejected (.strayParent step.parent.name step.entity.name))
  | none => return joinLayers primary [primary.key] resolved

end Joinery
