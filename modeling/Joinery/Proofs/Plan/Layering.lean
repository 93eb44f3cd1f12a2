import Joinery.Proofs.Plan.JoinOrder
import Joinery.Proofs.Schema.Loading

/-! Joins come layer by layer, nearest to the primary entity first, and what no chain leads to comes last. -/

namespace Joinery

/--
Whether the chain of requested parents that begins with a request reaches the primary entity
after so many further requests.
-/
def JoinStep.isAtDepth (primary : EntitySchema) (requests : List JoinStep) :
    Nat → JoinStep → Bool
  | 0, request => request.parent.key == primary.key
  | depth + 1, request =>
    -- The chain goes on with the request for the parent.
    requests.any fun parent =>
      parent.entity.key == request.parent.key && isAtDepth primary requests depth parent

/-- Whether the chain of requested parents reaches the primary entity at all. -/
def JoinStep.Reachable (primary : EntitySchema) (requests : List JoinStep) (request : JoinStep) :
    Prop :=
  ∃ depth, request.isAtDepth primary requests depth = true

/-- The requests at one depth, in the order in which they were submitted. -/
def requestsAt (primary : EntitySchema) (requests : List JoinStep) (depth : Nat) : List JoinStep :=
  requests.filter (·.isAtDepth primary requests depth)

/-- Whether a request is at none of the first depths. -/
def JoinStep.isBeyond (primary : EntitySchema) (requests : List JoinStep) (depths : Nat)
    (request : JoinStep) : Bool :=
  (List.range depths).all fun depth => !request.isAtDepth primary requests depth

/-- A request that comes when some entities are joined: it hangs from its parent if that is one of them. -/
def JoinStep.joinedAfter (primary : EntitySchema) (joined : List String) (request : JoinStep) :
    JoinStep :=
  if request.parent.key ∈ joined then request else { request with parent := primary }

/-- The joins that a list of requests leads to. -/
structure JoinOrder.Layered (order : JoinOrder) (primary : EntitySchema)
    (requests : List JoinStep) : Prop where
  /-- Every requested entity is joined with its own filter, and nothing else is. -/
  complete : (order.steps.map fun step => (step.entity, step.filter)).Perm
    (requests.map fun request => (request.entity, request.filter))
  /-- No entity is joined twice, and the primary one is not joined again. -/
  distinct : (primary.key :: order.steps.map (·.entity.key)).Nodup
  /-- Every parent is the primary entity or stands at an earlier place. -/
  parents : ∀ (i : Nat) (step : JoinStep), order.steps[i]? = some step →
    step.parent.key = primary.key ∨ ∃ (j : Nat) (other : JoinStep), j < i ∧
      order.steps[j]? = some other ∧ other.entity.key = step.parent.key
  /-- The requests that are told apart are those that no chain connects to the primary entity. -/
  unreachable : order.unreachable.Sublist requests ∧ ∀ request ∈ requests,
    request ∈ order.unreachable ↔ ¬ request.Reachable primary requests
  /-- There is nothing to warn of where every request can be reached. -/
  quiet : (∀ request ∈ requests, request.Reachable primary requests) → order.warnings primary = []
  /-- Otherwise one warning names the others in the order in which they were submitted. -/
  warned : (∃ request ∈ requests, ¬ request.Reachable primary requests) →
    order.warnings primary = [circularWarning primary order.unreachable] ∧
      (circularWarning primary order.unreachable).entities =
        order.unreachable.map (·.entity.name)
  /-- All layers come first, as they were requested, and then the requests without a chain. -/
  layers : ∃ depths rest,
    let front := (List.range depths).flatMap (requestsAt primary requests)
    order.steps = front ++ rest ∧
      (∀ depth ≥ depths, requestsAt primary requests depth = []) ∧
      ∀ i : Nat, rest[i]? = order.unreachable[i]?.map
        (JoinStep.joinedAfter primary (primary.key :: (front ++ rest.take i).map (·.entity.key)))

variable {primary : EntitySchema} {requests : List JoinStep} {request : JoinStep}

/-- A request is one link farther out than the request for its parent. -/
theorem JoinStep.isAtDepth_succ {depth : Nat} :
    request.isAtDepth primary requests (depth + 1) = true ↔ ∃ parent ∈ requests,
      parent.entity.key = request.parent.key ∧ parent.isAtDepth primary requests depth = true := by
  -- That is how depths are counted.
  simp [isAtDepth]

/-- A request that hangs from the primary entity is at no other depth, as that entity is not requested. -/
theorem JoinStep.not_isAtDepth_succ (absent : primary.key ∉ requests.map (·.entity.key))
    (direct : request.isAtDepth primary requests 0 = true) (depth : Nat) :
    ¬ request.isAtDepth primary requests (depth + 1) = true := by
  -- Farther out there would be a request for its parent, which is the primary entity.
  intro farther
  obtain ⟨parent, member, same, _⟩ := isAtDepth_succ.mp farther
  have direct : request.parent.key = primary.key := by simpa [isAtDepth] using direct
  exact absent (List.mem_map.mpr ⟨parent, member, same.trans direct⟩)

/-- No chain reaches the primary entity after two different numbers of requests. -/
theorem JoinStep.isAtDepth_unique (distinct : (primary.key :: requests.map (·.entity.key)).Nodup)
    {m n : Nat} (first : request.isAtDepth primary requests m = true)
    (second : request.isAtDepth primary requests n = true) : m = n := by
  obtain ⟨absent, distinct⟩ := List.nodup_cons.mp distinct
  induction m generalizing n request with
  | zero =>
    cases n with
    | zero => rfl
    | succ n => exact (not_isAtDepth_succ absent first n second).elim
  | succ m ih =>
    cases n with
    | zero => exact (not_isAtDepth_succ absent second m first).elim
    | succ n =>
      -- Both chains go on with one request, as no entity is requested twice.
      obtain ⟨parent, member, same, above⟩ := isAtDepth_succ.mp first
      obtain ⟨other, inside, equal, beside⟩ := isAtDepth_succ.mp second
      have one : parent = other :=
        List.inj_on_of_nodup_map distinct member inside (same.trans equal.symm)
      subst one
      rw [ih above beside]

/-- A request is beyond some depths exactly when it is at none of them. -/
theorem JoinStep.isBeyond_iff {depths : Nat} :
    request.isBeyond primary requests depths = true ↔
      ∀ depth < depths, request.isAtDepth primary requests depth = false := by
  -- That is how it is tested.
  simp [isBeyond]

/-- What is joined once the first layers are: the primary entity and the entities of these layers. -/
def LayersJoined (primary : EntitySchema) (requests : List JoinStep) (depths : Nat)
    (joined : List String) : Prop :=
  ∀ key, key ∈ joined ↔ key = primary.key ∨ ∃ request ∈ requests,
    (∃ depth < depths, request.isAtDepth primary requests depth = true) ∧ request.entity.key = key

variable {joined : List String} {depths : Nat}

/-- A request is ready exactly when it is at one of the joined depths or at the next one. -/
theorem LayersJoined.isReady_iff (layered : LayersJoined primary requests depths joined) :
    request.isReady joined = true ↔
      ∃ depth ≤ depths, request.isAtDepth primary requests depth = true := by
  -- A request is ready when its parent is joined, and the parent is one depth closer.
  have known : request.isReady joined = true ↔ request.parent.key ∈ joined := by
    simp [JoinStep.isReady]
  rw [known, layered]
  constructor
  · rintro (direct | ⟨parent, member, ⟨depth, below, above⟩, same⟩)
    · exact ⟨0, Nat.zero_le _, by simpa [JoinStep.isAtDepth] using direct⟩
    · exact ⟨depth + 1, below, JoinStep.isAtDepth_succ.mpr ⟨parent, member, same, above⟩⟩
  · rintro ⟨depth, within, at_⟩
    cases depth with
    | zero => exact .inl (by simpa [JoinStep.isAtDepth] using at_)
    | succ depth =>
      obtain ⟨parent, member, same, above⟩ := JoinStep.isAtDepth_succ.mp at_
      exact .inr ⟨parent, member, ⟨depth, within, above⟩, same⟩

/-- The ready requests among those that are left make up the next layer. -/
theorem LayersJoined.readySteps_eq (layered : LayersJoined primary requests depths joined)
    (distinct : (primary.key :: requests.map (·.entity.key)).Nodup) :
    readySteps joined (requests.filter (·.isBeyond primary requests depths)) =
      requestsAt primary requests depths := by
  rw [readySteps, requestsAt, List.filter_filter]
  refine List.filter_congr fun request _ => ?_
  rw [Bool.eq_iff_iff, Bool.and_eq_true, layered.isReady_iff, JoinStep.isBeyond_iff]
  constructor
  · rintro ⟨⟨depth, within, at_⟩, beyond⟩
    -- It is at none of the joined depths, so the next one is left.
    rcases Nat.lt_or_eq_of_le within with before | same
    · simp [beyond depth before] at at_
    · exact same ▸ at_
  · intro at_
    refine ⟨⟨depths, Nat.le_refl _, at_⟩, fun depth before => ?_⟩
    rw [Bool.eq_false_iff]
    intro other
    have same := JoinStep.isAtDepth_unique distinct at_ other
    omega

/-- The requests that wait beside the next layer are those beyond it. -/
theorem LayersJoined.waitingSteps_eq (layered : LayersJoined primary requests depths joined) :
    waitingSteps joined (requests.filter (·.isBeyond primary requests depths)) =
      requests.filter (·.isBeyond primary requests (depths + 1)) := by
  -- Beyond the next depth means beyond the former ones and not ready.
  rw [waitingSteps, List.filter_filter]
  refine List.filter_congr fun request _ => ?_
  rw [Bool.eq_iff_iff, Bool.and_eq_true, Bool.not_eq_true', Bool.eq_false_iff, ne_eq,
    layered.isReady_iff, JoinStep.isBeyond_iff, JoinStep.isBeyond_iff]
  constructor
  · rintro ⟨waiting, _⟩ depth within
    rw [Bool.eq_false_iff]
    exact fun at_ => waiting ⟨depth, Nat.le_of_lt_succ within, at_⟩
  · intro beyond
    refine ⟨?_, fun depth before => beyond depth (Nat.lt_succ_of_lt before)⟩
    rintro ⟨depth, within, at_⟩
    simp [beyond depth (Nat.lt_succ_of_le within)] at at_

/-- Joining the next layer adds its entities to what is joined. -/
theorem LayersJoined.next (layered : LayersJoined primary requests depths joined) :
    LayersJoined primary requests (depths + 1)
      ((requestsAt primary requests depths).map (·.entity.key) ++ joined) := by
  -- The entities of the layer are those that are one depth farther out.
  intro key
  rw [List.mem_append, layered, List.mem_map]
  constructor
  · rintro (⟨request, member, same⟩ | main | ⟨request, member, ⟨depth, before, at_⟩, same⟩)
    · obtain ⟨inside, at_⟩ := List.mem_filter.mp member
      exact .inr ⟨request, inside, ⟨depths, Nat.lt_succ_self _, at_⟩, same⟩
    · exact .inl main
    · exact .inr ⟨request, member, ⟨depth, Nat.lt_succ_of_lt before, at_⟩, same⟩
  · rintro (main | ⟨request, member, ⟨depth, within, at_⟩, same⟩)
    · exact .inr (.inl main)
    · rcases Nat.lt_or_eq_of_le (Nat.le_of_lt_succ within) with before | last
      · exact .inr (.inr ⟨request, member, ⟨depth, before, at_⟩, same⟩)
      · exact .inl ⟨request, List.mem_filter.mpr ⟨member, last ▸ at_⟩, same⟩

/-- Beyond a layer without requests there are no more layers. -/
theorem isAtDepth_eq_false_of_empty (empty : requestsAt primary requests depths = [])
    (member : request ∈ requests) (farther : Nat) :
    request.isAtDepth primary requests (depths + farther) = false := by
  -- A chain that goes farther out passes through the empty layer.
  rw [Bool.eq_false_iff]
  intro at_
  induction farther generalizing request with
  | zero => exact List.filter_eq_nil_iff.mp empty request member at_
  | succ farther ih =>
    obtain ⟨parent, inside, _, above⟩ := JoinStep.isAtDepth_succ.mp at_
    exact ih inside above

/-- With an empty layer the requests beyond it are those that cannot be reached. -/
theorem isBeyond_iff_not_reachable (empty : requestsAt primary requests depths = [])
    (member : request ∈ requests) :
    request.isBeyond primary requests depths = true ↔ ¬ request.Reachable primary requests := by
  -- Beyond an empty layer there is nothing, so a depth that is not reached there is reached nowhere.
  rw [JoinStep.isBeyond_iff, JoinStep.Reachable, not_exists]
  constructor
  · intro beyond depth at_
    rcases Nat.lt_or_ge depth depths with before | after
    · simp [beyond depth before] at at_
    · obtain ⟨farther, rfl⟩ := Nat.exists_eq_add_of_le after
      simp [isAtDepth_eq_false_of_empty empty member farther] at at_
  · intro unreachable depth _
    exact Bool.eq_false_iff.mpr (unreachable depth)

/-- Layer by layer the joins come to a layer without requests, and what is left is appended. -/
theorem joinLayers_layers (distinct : (primary.key :: requests.map (·.entity.key)).Nodup)
    (layered : LayersJoined primary requests depths joined) :
    ∃ last all, depths ≤ last ∧ requestsAt primary requests last = [] ∧
      LayersJoined primary requests last all ∧
      joinLayers primary joined (requests.filter (·.isBeyond primary requests depths)) =
        ⟨(List.range' depths (last - depths)).flatMap (requestsAt primary requests) ++
          joinRemaining primary all (requests.filter (·.isBeyond primary requests last)),
          requests.filter (·.isBeyond primary requests last)⟩ := by
  -- Each round joins one layer, and the rounds end because fewer and fewer requests wait.
  generalize waiting : requests.filter (·.isBeyond primary requests depths) = pending
  revert depths
  induction joined, pending using joinLayers.induct primary with
  | case1 joined pending stuck =>
    intro depths layered waiting
    subst waiting
    refine ⟨depths, joined, Nat.le_refl _, layered.readySteps_eq distinct ▸ stuck, layered, ?_⟩
    rw [joinLayers, dif_pos stuck, Nat.sub_self]
    rfl
  | case2 joined pending occupied layer =>
    rename_i ih
    intro depths layered waiting
    subst waiting
    -- The layer is what waits at this depth.
    have next : layer = requestsAt primary requests depths := layered.readySteps_eq distinct
    rw [next] at ih
    obtain ⟨last, all, farther, empty, joinedAll, later⟩ :=
      ih layered.next layered.waitingSteps_eq.symm
    refine ⟨last, all, Nat.le_of_succ_le farther, empty, joinedAll, ?_⟩
    -- The depths from here on are this one and those behind it.
    have range : List.range' depths (last - depths) =
        depths :: List.range' (depths + 1) (last - (depths + 1)) := by
      rw [← List.range'_succ]
      congr 1
      omega
    rw [joinLayers, dif_neg occupied, layered.readySteps_eq distinct]
    simp only [later, range, List.flatMap_cons, List.append_assoc]

/-- Only which entities are joined matters to a request, not the order in which they came. -/
theorem JoinStep.joinedAfter_congr {first second : List String}
    (same : ∀ key, key ∈ first ↔ key ∈ second) :
    -- The parent of a request is looked up by its key alone.
    joinedAfter primary first = joinedAfter primary second := by
  funext request
  simp only [joinedAfter, same]

/-- A request that is appended keeps its parent if that one is joined by then. -/
theorem joinRemaining_getElem? (primary : EntitySchema) (joined : List String)
    (pending : List JoinStep) (i : Nat) :
    (joinRemaining primary joined pending)[i]? = pending[i]?.map
      (JoinStep.joinedAfter primary (joined ++ (pending.take i).map (·.entity.key))) := by
  -- Every request adds its own entity before the next one is looked at.
  induction pending generalizing joined i with
  | nil => rfl
  | cons step rest ih =>
    rw [joinRemaining]
    cases i with
    | zero => simp [JoinStep.joinedAfter, JoinStep.isReady]
    | succ i =>
      rw [List.getElem?_cons_succ, List.getElem?_cons_succ, ih]
      congr 1
      refine JoinStep.joinedAfter_congr fun key => ?_
      simp only [List.take_succ_cons, List.map_cons, List.cons_append, List.mem_cons,
        List.mem_append]
      tauto

/-- Before the first layer only the primary entity is joined. -/
theorem layersJoined_zero (primary : EntitySchema) (requests : List JoinStep) :
    LayersJoined primary requests 0 [primary.key] := by
  -- No depth is below zero.
  intro key
  simp

/-- The entities of some layers and the primary one are what is joined after these layers. -/
theorem LayersJoined.mem_iff (layered : LayersJoined primary requests depths joined) (key : String) :
    key ∈ joined ↔ key ∈ primary.key ::
      ((List.range depths).flatMap (requestsAt primary requests)).map (·.entity.key) := by
  -- A request at one of the depths is in one of the layers.
  rw [layered key, List.mem_cons, List.mem_map]
  refine or_congr_right ⟨?_, ?_⟩
  · rintro ⟨request, member, ⟨depth, before, at_⟩, same⟩
    exact ⟨request, List.mem_flatMap.mpr
      ⟨depth, List.mem_range.mpr before, List.mem_filter.mpr ⟨member, at_⟩⟩, same⟩
  · rintro ⟨request, inside, same⟩
    obtain ⟨depth, before, member⟩ := List.mem_flatMap.mp inside
    obtain ⟨member, at_⟩ := List.mem_filter.mp member
    exact ⟨request, member, ⟨depth, List.mem_range.mp before, at_⟩, same⟩

/-- Appended requests keep their entities, and so do the first so many of them. -/
theorem joinRemaining_take_keys (primary : EntitySchema) (joined : List String)
    (pending : List JoinStep) (i : Nat) :
    ((joinRemaining primary joined pending).take i).map (·.entity.key) =
      (pending.take i).map (·.entity.key) := by
  -- Each appended request keeps its place, and at most its parent is another one.
  have same : (joinRemaining primary joined pending).map (fun step => (step.entity, step.filter)) =
      pending.map fun step => (step.entity, step.filter) := joinRemaining_map joined pending
  have kept := congrArg (List.map fun pair => pair.1.key) same
  simp only [List.map_map] at kept
  rw [List.map_take, List.map_take]
  exact congrArg (List.take i) kept

/-- From the primary entity on the joins come to an empty layer, and what is beyond it is left. -/
theorem joinLayers_run (distinct : (primary.key :: requests.map (·.entity.key)).Nodup) :
    ∃ depths known, requestsAt primary requests depths = [] ∧
      LayersJoined primary requests depths known ∧
      joinLayers primary [primary.key] requests =
        ⟨(List.range depths).flatMap (requestsAt primary requests) ++
          joinRemaining primary known (requests.filter (·.isBeyond primary requests depths)),
          requests.filter (·.isBeyond primary requests depths)⟩ := by
  -- At the start every request is beyond the layers that are joined.
  have all : requests.filter (·.isBeyond primary requests 0) = requests := by
    simp [JoinStep.isBeyond]
  obtain ⟨depths, known, _, empty, joinedAll, run⟩ :=
    joinLayers_layers distinct (layersJoined_zero primary requests)
  rw [all, Nat.sub_zero, ← List.range_eq_range'] at run
  exact ⟨depths, known, empty, joinedAll, run⟩

/-- What is left is what no chain connects to the primary entity, in the order of submission. -/
theorem joinLayers_unreachable (distinct : (primary.key :: requests.map (·.entity.key)).Nodup) :
    (joinLayers primary [primary.key] requests).unreachable.Sublist requests ∧
      ∀ request ∈ requests, request ∈ (joinLayers primary [primary.key] requests).unreachable ↔
        ¬ request.Reachable primary requests := by
  -- The layers come to an end, and what is beyond them has not been reached.
  obtain ⟨depths, known, empty, _, run⟩ := joinLayers_run distinct
  rw [run]
  refine ⟨List.filter_sublist, fun request member => ?_⟩
  rw [List.mem_filter, isBeyond_iff_not_reachable empty member]
  exact and_iff_right member

/-- Requests of distinct entities, none of them the primary one, are joined layer by layer. -/
theorem joinLayers_layered (distinct : (primary.key :: requests.map (·.entity.key)).Nodup) :
    (joinLayers primary [primary.key] requests).Layered primary requests := by
  have complete := joinLayers_perm primary [primary.key] requests
  have once : (primary.key :: (joinLayers primary [primary.key] requests).steps.map
      (·.entity.key)).Nodup := by
    have keys := (complete.map fun pair => pair.1.key).cons primary.key
    simp only [List.map_map] at keys
    exact keys.nodup_iff.mpr distinct
  have first : ParentsFirst [primary.key] (joinLayers primary [primary.key] requests).steps :=
    joinLayers_parentsFirst (List.mem_singleton_self primary.key)
  obtain ⟨part, left⟩ := joinLayers_unreachable distinct
  refine ⟨complete, once, fun i step at_ => ?_, ⟨part, left⟩, fun reachable => ?_, ?_, ?_⟩
  · exact (first.parent_before at_).imp_left List.mem_singleton.mp
  -- Where everything can be reached nothing is left, and otherwise something is.
  · have none : (joinLayers primary [primary.key] requests).unreachable = [] := by
      refine List.eq_nil_iff_forall_not_mem.mpr fun request member => ?_
      have inside := part.subset member
      exact (left request inside).mp member (reachable request inside)
    rw [JoinOrder.warnings, none]
    rfl
  · rintro ⟨request, member, stray⟩
    have some : (joinLayers primary [primary.key] requests).unreachable ≠ [] :=
      List.ne_nil_of_mem ((left request member).mpr stray)
    rw [JoinOrder.warnings, if_neg (by simpa using some)]
    exact ⟨rfl, rfl⟩
  · obtain ⟨depths, known, empty, joinedAll, run⟩ := joinLayers_run distinct
    refine ⟨depths, joinRemaining primary known (requests.filter (·.isBeyond primary requests depths)),
      by rw [run], fun depth after => ?_, fun i => ?_⟩
    · obtain ⟨farther, rfl⟩ := Nat.exists_eq_add_of_le after
      refine List.filter_eq_nil_iff.mpr fun request member => ?_
      simp [isAtDepth_eq_false_of_empty empty member farther]
    · rw [run, joinRemaining_getElem?]
      congr 1
      -- What is joined by then are the layers and the requests that were appended before.
      refine JoinStep.joinedAfter_congr fun key => ?_
      rw [List.map_append, joinRemaining_take_keys, ← List.cons_append, List.mem_append,
        List.mem_append, joinedAll.mem_iff]

/-- What a request asks for, once its entities are found. -/
structure RelatedRequest.Names (registry : Registry) (primary : EntitySchema)
    (request : RelatedRequest) (step : JoinStep) : Prop where
  /-- The entity of the name is found. -/
  entity : registry.require request.entity = .ok step.entity
  /-- So is the parent, and a request that names none hangs from the primary entity. -/
  parent : if request.parent.truthy then registry.require request.parent = .ok step.parent
    else step.parent = primary
  /-- The filter is that of the request. -/
  filter : step.filter = request.filter

/-- A list of requests that can be joined, and what it asks for. -/
structure ValidRequests (registry : Registry) (primary : EntitySchema)
    (requests : List RelatedRequest) (resolved : List JoinStep) : Prop where
  /-- All entities are found. -/
  named : List.Forall₂ (RelatedRequest.Names registry primary) requests resolved
  /-- No entity is requested twice, and the primary one is not requested. -/
  distinct : (primary.key :: resolved.map (·.entity.key)).Nodup
  /-- Every parent is the primary entity or is requested as well. -/
  present : ∀ step ∈ resolved, step.parent.key = primary.key ∨
    ∃ other ∈ resolved, other.entity.key = step.parent.key

/-- Requests that name distinct new entities are resolved. -/
theorem resolveRequests_of_names {registry : Registry} {seen : List String}
    {asked : List RelatedRequest} {resolved : List JoinStep}
    (named : List.Forall₂ (RelatedRequest.Names registry primary) asked resolved)
    (distinct : (resolved.map (·.entity.key)).Nodup)
    (fresh : ∀ step ∈ resolved, step.entity.key ∉ seen) :
    resolveRequests registry primary seen asked = .ok resolved := by
  -- Each request adds its entity to those that were seen.
  induction named generalizing seen with
  | nil => rfl
  | @cons request step rest others found _ ih =>
    obtain ⟨apart, distinct⟩ := List.nodup_cons.mp distinct
    -- It was not seen, and those behind it do not repeat it.
    have unseen : seen.contains step.entity.key = false := by
      simpa using fresh step List.mem_cons_self
    have later : resolveRequests registry primary (step.entity.key :: seen) rest = .ok others := by
      refine ih distinct fun other member => ?_
      rw [List.mem_cons, not_or]
      refine ⟨fun same => apart (List.mem_map.mpr ⟨other, member, same⟩), ?_⟩
      exact fresh other (List.mem_cons_of_mem _ member)
    rw [resolveRequests, found.entity]
    refine bind_eq_ok.mpr ⟨step.entity, rfl, ?_⟩
    rw [unseen, if_neg Bool.false_ne_true]
    have rest : (resolveRequests registry primary (step.entity.key :: seen) rest >>= fun others =>
        pure (⟨step.entity, step.parent, request.filter⟩ :: others)) = .ok (step :: others) := by
      refine bind_eq_ok.mpr ⟨others, later, ?_⟩
      rw [← found.filter]
      rfl
    -- Its parent is named or is the primary entity.
    have parent := found.parent
    split at parent
    · rename_i truthy
      exact (if_pos truthy).trans (bind_eq_ok.mpr ⟨step.parent, parent, rest⟩)
    · rename_i absent
      exact (if_neg absent).trans (bind_eq_ok.mpr ⟨primary, rfl, parent ▸ rest⟩)

/-- Requests that can be joined are joined layer by layer. -/
theorem ValidRequests.ofRequests_eq {registry : Registry} {asked : List RelatedRequest}
    {resolved : List JoinStep} (valid : ValidRequests registry primary asked resolved) :
    JoinOrder.ofRequests registry primary asked = .ok (joinLayers primary [primary.key] resolved) := by
  -- Names are resolved one by one, and every parent is the primary entity or is asked for.
  obtain ⟨absent, distinct⟩ := List.nodup_cons.mp valid.distinct
  have found : resolveRequests registry primary [primary.key] asked = .ok resolved := by
    refine resolveRequests_of_names valid.named distinct fun step member inside => ?_
    exact absent (List.mem_map.mpr ⟨step, member, List.mem_singleton.mp inside⟩)
  have none : resolved.find? (fun step => !isPresent primary resolved step.parent) = none := by
    rw [List.find?_eq_none]
    intro step member
    simpa [isPresent, or_iff_not_imp_left] using valid.present step member
  refine bind_eq_ok.mpr ⟨resolved, found, ?_⟩
  rw [none]
  rfl

/-- Requests that are resolved name what they are resolved to. -/
theorem resolveRequests_names {registry : Registry} {seen : List String}
    {asked : List RelatedRequest} {resolved : List JoinStep}
    (found : resolveRequests registry primary seen asked = .ok resolved) :
    List.Forall₂ (RelatedRequest.Names registry primary) asked resolved := by
  -- What was seen only decides whether there is a result, not what it is.
  induction asked generalizing seen resolved with
  | nil =>
    cases found
    exact .nil
  | cons request rest ih =>
    obtain ⟨entity, named, found⟩ := bind_eq_ok.mp found
    split at found
    · contradiction
    dsimp only at found
    split at found <;> rename_i truthy
    · obtain ⟨parent, above, found⟩ := bind_eq_ok.mp found
      obtain ⟨others, later, same⟩ := bind_eq_ok.mp found
      cases same
      exact .cons ⟨named, (if_pos truthy).mpr above, rfl⟩ (ih later)
    · obtain ⟨parent, above, found⟩ := bind_eq_ok.mp found
      obtain ⟨others, later, same⟩ := bind_eq_ok.mp found
      cases above
      cases same
      exact .cons ⟨named, (if_neg truthy).mpr rfl, rfl⟩ (ih later)

/-- Only valid requests are put in order, and the order of the joins is the one by layers. -/
theorem JoinOrder.valid_of_ofRequests {registry : Registry} {asked : List RelatedRequest}
    {order : JoinOrder} (ordered : ofRequests registry primary asked = .ok order) :
    ∃ resolved, ValidRequests registry primary asked resolved ∧ order.Layered primary resolved := by
  -- Each of the three checks shows one part of what makes requests valid.
  obtain ⟨resolved, found, rest⟩ := bind_eq_ok.mp ordered
  obtain ⟨_, distinct, fresh⟩ := resolveRequests_ok found
  split at rest
  · contradiction
  rename_i none
  cases rest
  have once : (primary.key :: resolved.map (·.entity.key)).Nodup := by
    refine List.nodup_cons.mpr ⟨fun inside => ?_, distinct⟩
    obtain ⟨step, member, same⟩ := List.mem_map.mp inside
    exact fresh step member (List.mem_singleton.mpr same)
  have present : ∀ step ∈ resolved, step.parent.key = primary.key ∨
      ∃ other ∈ resolved, other.entity.key = step.parent.key := by
    intro step member
    simpa [isPresent, or_iff_not_imp_left] using List.find?_eq_none.mp none step member
  exact ⟨resolved, ⟨resolveRequests_names found, once, present⟩, joinLayers_layered once⟩

/--
Valid requests are put in order: each once, after its parent, nearest to the primary entity first.

Where entities of one name are one entity, the parents are the very entities that were joined before.
-/
theorem JoinOrder.ofRequests_layered {registry : Registry} {asked : List RelatedRequest}
    {resolved : List JoinStep} (valid : ValidRequests registry primary asked resolved) :
    ∃ order, ofRequests registry primary asked = .ok order ∧ order.Layered primary resolved ∧
      (registry.Loaded → (∃ name, registry.require name = .ok primary) →
        ∀ (i : Nat) (step : JoinStep), order.steps[i]? = some step → step.parent = primary ∨
          ∃ (j : Nat) (other : JoinStep), j < i ∧ order.steps[j]? = some other ∧
            other.entity = step.parent) := by
  -- The parent of a step has the key of an entity before it, and a loaded registry has one entity for a key.
  have layered := joinLayers_layered valid.distinct
  refine ⟨_, valid.ofRequests_eq, layered, ?_⟩
  rintro loaded ⟨name, main⟩ i step at_
  have sound := ofRequests_sound valid.ofRequests_eq
  rcases sound.parents step (List.mem_of_getElem? at_) with same | ⟨request, _, parent⟩
  · exact .inl same
  rcases layered.parents i step at_ with same | ⟨j, other, before, place, same⟩
  · exact .inl (loaded.eq_of_key parent main same)
  · obtain ⟨origin, _, entity, _⟩ := sound.requested other (List.mem_of_getElem? place)
    exact .inr ⟨j, other, before, place, loaded.eq_of_key entity parent same⟩

/-- An entity that has an identifier and nothing else. -/
def kinEntity (name : String) : EntitySchema :=
  ⟨name, name, "", "id", [("id", ⟨.string, ""⟩)], ["id"], none, []⟩

/-- The registry of seven such entities. -/
def kinRegistry : Registry :=
  ⟨["A", "B", "C", "S", "T", "X", "Y"].map fun name => (lowered name, kinEntity name), 10, 10⟩

/-- A filter that tells the requests apart. -/
def kinFilter (name : String) : Option Filter := some ⟨[("id", .text name)], none⟩

/-- Below A: a child before its parent, one below itself, one below a circle of two, and the circle. -/
def kinRequests : List RelatedRequest :=
  [("C", "B"), ("B", ""), ("S", "S"), ("T", "X"), ("X", "Y"), ("Y", "X")].map
    fun (name, parent) => ⟨.text name, kinFilter name, .text parent⟩

/-- The joins that these requests ask for. -/
def kinSteps : List JoinStep :=
  [("C", "B"), ("B", "A"), ("S", "S"), ("T", "X"), ("X", "Y"), ("Y", "X")].map
    fun (name, parent) => ⟨kinEntity name, kinEntity parent, kinFilter name⟩

/-- The names in a pair of requests and joins are found as the pair says. -/
theorem kinNames {name asked parent : String}
    (entity : kinRegistry.require (.text name) = .ok (kinEntity name))
    (above : if (Value.text asked).truthy
      then kinRegistry.require (.text asked) = .ok (kinEntity parent)
      else kinEntity parent = kinEntity "A") :
    RelatedRequest.Names kinRegistry (kinEntity "A") ⟨.text name, kinFilter name, .text asked⟩
      ⟨kinEntity name, kinEntity parent, kinFilter name⟩ :=
  -- The two names are looked up, and the filter is taken over.
  ⟨entity, above, rfl⟩

/-- These requests are valid. -/
theorem kinRequests_valid : ValidRequests kinRegistry (kinEntity "A") kinRequests kinSteps := by
  -- There are six requests, each with its names.
  refine ⟨?_, by decide +kernel, by decide +kernel⟩
  exact .cons (kinNames rfl rfl) (.cons (kinNames rfl rfl) (.cons (kinNames rfl rfl)
    (.cons (kinNames rfl rfl) (.cons (kinNames rfl rfl) (.cons (kinNames rfl rfl) .nil)))))

/-- B comes before C, and the circles are opened at A where the parent is not joined yet. -/
theorem kinRequests_layered : ValidRequests kinRegistry (kinEntity "A") kinRequests kinSteps ∧
    ∃ order, JoinOrder.ofRequests kinRegistry (kinEntity "A") kinRequests = .ok order ∧
      order.Layered (kinEntity "A") kinSteps ∧
      order.steps.map (fun step => (step.entity.name, step.parent.name)) =
        [("B", "A"), ("C", "B"), ("S", "A"), ("T", "A"), ("X", "A"), ("Y", "X")] ∧
      (order.warnings (kinEntity "A")).map PlanningWarning.entities = [["S", "T", "X", "Y"]] := by
  -- The requests are valid, so their order is the one by layers, which can be looked at.
  obtain ⟨order, ordered, layered, _⟩ := JoinOrder.ofRequests_layered kinRequests_valid
  refine ⟨kinRequests_valid, order, ordered, layered, ?_⟩
  rw [kinRequests_valid.ofRequests_eq] at ordered
  cases ordered
  decide +kernel

end Joinery
