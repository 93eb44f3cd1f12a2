import Mathlib.Data.List.Forall2

/-! Computations that can fail are taken apart where they succeed. -/

namespace Joinery

variable {ε δ α β : Type}

/-- Two steps succeed together exactly when each of them does. -/
theorem bind_eq_ok {first : Except ε α} {next : α → Except ε β} {result : β} :
    (first >>= next) = .ok result ↔ ∃ value, first = .ok value ∧ next value = .ok result := by
  -- A failed first step ends the computation.
  cases first with
  | error fault => simp [Bind.bind, Except.bind]
  | ok value => simp [Bind.bind, Except.bind]

/-- Rewording a fault does not turn it into a success. -/
theorem mapError_eq_ok {computed : Except ε α} {reword : ε → δ} {result : α} :
    computed.mapError reword = .ok result ↔ computed = .ok result := by
  -- Values pass through unchanged.
  cases computed <;> simp [Except.mapError]

/-- A computation that succeeds gives the value that it is asked for. -/
theorem eq_ok_get {computed : Except ε α} (success : computed.toOption.isSome = true) :
    computed = .ok (computed.toOption.get success) := by
  -- A fault would leave no value.
  cases computed with
  | error fault => contradiction
  | ok value => rfl

/-- A computation that leaves a value succeeds with it. -/
theorem eq_ok_of_toOption {computed : Except ε α} {value : α}
    (left : computed.toOption = some value) : computed = .ok value := by
  -- A fault would leave no value.
  cases computed with
  | error fault => contradiction
  | ok found => exact congrArg Except.ok (Option.some.inj left)

/-- Changing a value keeps success. -/
theorem map_eq_ok {computed : Except ε α} {change : α → β} {result : β} :
    computed.map change = .ok result ↔ ∃ value, computed = .ok value ∧ change value = result := by
  -- Faults pass through unchanged.
  cases computed <;> simp [Except.map]

/-- A list is gone through successfully exactly when every item is. -/
theorem mapM_eq_ok {step : α → Except ε β} {items : List α} {results : List β} :
    items.mapM step = .ok results ↔
      List.Forall₂ (fun item result => step item = .ok result) items results := by
  -- The first item decides the first result, and the induction decides the others.
  induction items generalizing results with
  | nil => cases results <;> simp [Pure.pure, Except.pure]
  | cons item rest ih =>
    rw [List.mapM_cons, bind_eq_ok]
    constructor
    · rintro ⟨first, computed, others⟩
      obtain ⟨tail, computedTail, same⟩ := bind_eq_ok.mp others
      cases same
      exact .cons computed (ih.mp computedTail)
    · intro computed
      cases computed with
      | cons first others =>
        exact ⟨_, first, bind_eq_ok.mpr ⟨_, ih.mpr others, rfl⟩⟩

/-- In lists that stand side by side, everything on the right has a partner on the left. -/
theorem exists_left_of_aligned {related : α → β → Prop} {items : List α} {results : List β}
    (aligned : List.Forall₂ related items results) {result : β} (member : result ∈ results) :
    ∃ item ∈ items, related item result := by
  -- The partner of the first is the first, and the induction finds the others.
  induction aligned with
  | nil => contradiction
  | cons first _ ih =>
    rcases List.mem_cons.mp member with same | later
    · exact ⟨_, List.mem_cons_self, same ▸ first⟩
    · obtain ⟨item, inside, found⟩ := ih later
      exact ⟨item, List.mem_cons_of_mem _ inside, found⟩

/-- In lists that stand side by side, everything on the left has a partner on the right. -/
theorem exists_right_of_aligned {related : α → β → Prop} {items : List α} {results : List β}
    (aligned : List.Forall₂ related items results) {item : α} (member : item ∈ items) :
    ∃ result ∈ results, related item result := by
  -- The two sides change places.
  exact exists_left_of_aligned aligned.flip member

/-- What keeps the items on the right apart keeps their partners on the left apart. -/
theorem pairwise_of_aligned {related : α → β → Prop} {left : α → α → Prop} {right : β → β → Prop}
    {items : List α} {results : List β} (aligned : List.Forall₂ related items results)
    (apart : results.Pairwise right)
    (carried : ∀ a b x y, related a x → related b y → right x y → left a b) :
    items.Pairwise left := by
  -- The first item is kept apart from all later ones, as its partner is from theirs.
  induction aligned with
  | nil => exact .nil
  | cons head tail ih =>
    obtain ⟨first, others⟩ := List.pairwise_cons.mp apart
    refine .cons (fun item member => ?_) (ih others)
    obtain ⟨result, inside, found⟩ := exists_right_of_aligned tail member
    exact carried _ _ _ _ head found (first result inside)

/-- Two lists that stand side by side with a third one between them stand side by side. -/
theorem aligned_trans {γ : Type} {first : α → β → Prop} {second : β → γ → Prop} {items : List α}
    {middle : List β} {results : List γ} (left : List.Forall₂ first items middle)
    (right : List.Forall₂ second middle results) :
    List.Forall₂ (fun item result => ∃ between, first item between ∧ second between result)
      items results := by
  -- All three lists are gone through together.
  induction left generalizing results with
  | nil =>
    cases right
    exact .nil
  | cons head _ ih =>
    cases right with
    | cons next rest => exact .cons ⟨_, head, next⟩ (ih rest)

/-- What is read alike off lists that stand side by side is the same. -/
theorem filterMap_of_aligned {γ : Type} {related : α → β → Prop} {first : α → Option γ}
    {second : β → Option γ} (alike : ∀ item result, related item result → second result = first item)
    {items : List α} {results : List β} (aligned : List.Forall₂ related items results) :
    results.filterMap second = items.filterMap first := by
  -- The two heads are both kept or both left out.
  induction aligned with
  | nil => rfl
  | cons head _ ih => rw [List.filterMap_cons, List.filterMap_cons, alike _ _ head, ih]

/-- When everything in a list has a partner, the partners make up a list beside it. -/
theorem exists_aligned {related : α → β → Prop} {results : List β}
    (partnered : ∀ result ∈ results, ∃ item, related item result) :
    ∃ items, List.Forall₂ related items results := by
  -- The partner of the first goes before the partners of the others.
  induction results with
  | nil => exact ⟨[], .nil⟩
  | cons first rest ih =>
    obtain ⟨item, head⟩ := partnered first List.mem_cons_self
    obtain ⟨items, tail⟩ := ih fun result member => partnered result (List.mem_cons_of_mem _ member)
    exact ⟨item :: items, .cons head tail⟩

/-- A list is gone through successfully when each of its items is. -/
theorem exists_mapM {step : α → Except ε β} {items : List α}
    (each : ∀ item ∈ items, ∃ result, step item = .ok result) :
    ∃ results, items.mapM step = .ok results := by
  -- The results stand beside the items.
  obtain ⟨results, aligned⟩ := exists_aligned each
  exact ⟨results, mapM_eq_ok.mpr aligned.flip⟩

/-- A list of steps succeeds as far as each step does: a fold that can fail, one step at a time. -/
theorem foldlM_cons_eq_ok {step : β → α → Except ε β} {start result : β} {item : α}
    {rest : List α} :
    (item :: rest).foldlM step start = .ok result ↔
      ∃ next, step start item = .ok next ∧ rest.foldlM step next = .ok result := by
  -- The fold is the first step followed by the fold of the rest.
  rw [List.foldlM_cons]
  exact bind_eq_ok

/-- The faults of two steps are reworded step by step. -/
theorem mapError_bind {first : Except ε α} {next : α → Except ε β} {reword : ε → δ} :
    (first >>= next).mapError reword =
      first.mapError reword >>= fun value => (next value).mapError reword := by
  -- A fault of the first step is the last one, and after a success only the second step is left.
  cases first <;> rfl

/-- A computation that fails, if it fails at all, with a fault of the described kind. -/
def FailsOnly (described : ε → Prop) (computed : Except ε α) : Prop :=
  ∀ fault, computed = .error fault → described fault

/-- A success is no fault of any kind. -/
theorem FailsOnly.ok {described : ε → Prop} (value : α) :
    FailsOnly described (.ok value : Except ε α) := by
  intro fault failed
  contradiction

/-- A fault of the described kind is one. -/
theorem FailsOnly.error {described : ε → Prop} {fault : ε} (known : described fault) :
    FailsOnly described (.error fault : Except ε α) := by
  rintro _ ⟨⟩
  exact known

/-- Two steps fail as described when the first one does, and the second one after every success. -/
theorem FailsOnly.bind {described : ε → Prop} {first : Except ε α} {next : α → Except ε β}
    (before : FailsOnly described first)
    (after : ∀ value, first = .ok value → FailsOnly described (next value)) :
    FailsOnly described (first >>= next) := by
  -- The fault is that of the first step, or comes after its value.
  cases first with
  | error fault => exact .error (before fault rfl)
  | ok value => exact after value rfl

/-- A computation whose faults are reworded fails as the new wording is described. -/
theorem FailsOnly.mapError {described : δ → Prop} {computed : Except ε α} {reword : ε → δ}
    (reworded : FailsOnly (fun fault => described (reword fault)) computed) :
    FailsOnly described (computed.mapError reword) := by
  -- Only a fault is reworded.
  cases computed with
  | error fault => exact .error (reworded fault rfl)
  | ok value => exact .ok value

/-- A computation whose values are changed fails as it did before. -/
theorem FailsOnly.map {described : ε → Prop} {computed : Except ε α} {change : α → β}
    (only : FailsOnly described computed) : FailsOnly described (computed.map change) := by
  -- Faults pass through unchanged.
  cases computed with
  | error fault => exact .error (only fault rfl)
  | ok value => exact .ok _

/-- A list is gone through with the faults of its items only. -/
theorem FailsOnly.mapM {described : ε → Prop} {step : α → Except ε β}
    (each : ∀ item, FailsOnly described (step item)) (items : List α) :
    FailsOnly described (items.mapM step) := by
  -- Each item fails as described, and so do the items behind it.
  induction items with
  | nil => exact .ok []
  | cons first rest ih =>
    rw [List.mapM_cons]
    exact .bind (each first) fun _ _ => .bind ih fun results _ => .ok _

/-- A computation fails as described or comes to a value. -/
theorem FailsOnly.cases {described : ε → Prop} {computed : Except ε α}
    (only : FailsOnly described computed) :
    (∃ fault, computed = .error fault ∧ described fault) ∨ ∃ value, computed = .ok value := by
  cases computed with
  | error fault => exact .inl ⟨fault, rfl, only fault rfl⟩
  | ok value => exact .inr ⟨value, rfl⟩

/-- Two computations that fail alike, or succeed with values that are related. -/
inductive SameOutcome (related : α → β → Prop) : Except ε α → Except ε β → Prop where
  /-- Both fail with one fault. -/
  | fault (fault : ε) : SameOutcome related (.error fault) (.error fault)
  /-- Both succeed. -/
  | success {first : α} {second : β} (values : related first second) :
    SameOutcome related (.ok first) (.ok second)

variable {related : α → β → Prop} {first : Except ε α} {second : Except ε β}

/-- A computation has the outcome of itself. -/
theorem SameOutcome.refl (computed : Except ε α) : SameOutcome Eq computed computed := by
  cases computed with
  | error fault => exact .fault fault
  | ok value => exact .success rfl

/-- Outcomes stay alike when the next steps have like outcomes on related values. -/
theorem SameOutcome.bind {α' β' : Type} {next : α → Except ε α'} {other : β → Except ε β'}
    {after : α' → β' → Prop} (before : SameOutcome related first second)
    (steps : ∀ value value', related value value' → SameOutcome after (next value) (other value')) :
    SameOutcome after (first >>= next) (second >>= other) := by
  -- After a common fault nothing else happens.
  cases before with
  | fault fault => exact .fault fault
  | success values => exact steps _ _ values

/-- Outcomes stay alike when their faults are reworded. -/
theorem SameOutcome.mapError {reword : ε → δ} (same : SameOutcome related first second) :
    SameOutcome related (first.mapError reword) (second.mapError reword) := by
  cases same with
  | fault fault => exact .fault _
  | success values => exact .success values

/-- Where like outcomes are both successes, the values are related. -/
theorem SameOutcome.values {a : α} {b : β}
    (same : SameOutcome related (.ok a : Except ε α) (.ok b)) : related a b := by
  -- Two successes are alike in their values only.
  cases same with
  | success values => exact values

/-- What has the outcome of a success is one. -/
theorem SameOutcome.exists_ok {value : α} (same : SameOutcome related first second)
    (succeeded : first = .ok value) : ∃ value', second = .ok value' ∧ related value value' := by
  -- A fault on one side is a fault on the other.
  cases same with
  | fault fault => contradiction
  | success values =>
    cases succeeded
    exact ⟨_, rfl, values⟩

/-- What has the outcome of a fault fails with it. -/
theorem SameOutcome.eq_error {fault : ε} (same : SameOutcome related (.error fault) second) :
    second = .error fault := by
  cases same with
  | fault fault => rfl

/-- What is like an outcome up to a change of the value is the changed outcome. -/
theorem SameOutcome.eq_map {change : α → β}
    (same : SameOutcome (fun value other => other = change value) first second) :
    second = first.map change := by
  cases same with
  | fault fault => rfl
  | success values => exact congrArg Except.ok values

/-- Two computations that fail with related faults, or succeed with related values. -/
inductive LikeOutcome {γ : Type} (faults : ε → γ → Prop) (related : α → β → Prop) :
    Except ε α → Except γ β → Prop where
  /-- Both fail. -/
  | fault {first : ε} {second : γ} (failed : faults first second) :
    LikeOutcome faults related (.error first) (.error second)
  /-- Both succeed. -/
  | success {first : α} {second : β} (values : related first second) :
    LikeOutcome faults related (.ok first) (.ok second)

variable {γ : Type} {faults : ε → γ → Prop} {other : Except γ β}

/-- A computation is like itself as far as its faults and values are. -/
theorem LikeOutcome.refl {faults : ε → ε → Prop} {related : α → α → Prop}
    (fault : ∀ fault, faults fault fault) (value : ∀ value, related value value)
    (computed : Except ε α) : LikeOutcome faults related computed computed := by
  cases computed with
  | error failed => exact .fault (fault failed)
  | ok found => exact .success (value found)

/-- Computations with the same outcome are alike, where a fault is like itself. -/
theorem SameOutcome.like {faults : ε → ε → Prop} (fault : ∀ fault, faults fault fault)
    (same : SameOutcome related first second) : LikeOutcome faults related first second := by
  -- Faults are the same, so they are alike.
  cases same with
  | fault failed => exact .fault (fault failed)
  | success values => exact .success values

/-- Outcomes stay alike when the next steps have like outcomes on related values. -/
theorem LikeOutcome.bind {α' β' : Type} {next : α → Except ε α'} {then_ : β → Except γ β'}
    {after : α' → β' → Prop} (before : LikeOutcome faults related first other)
    (steps : ∀ value value', related value value' →
      LikeOutcome faults after (next value) (then_ value')) :
    LikeOutcome faults after (first >>= next) (other >>= then_) := by
  -- A fault in the first step is the fault of both steps together.
  cases before with
  | fault failed => exact .fault failed
  | success values => exact steps _ _ values

/-- Outcomes stay alike when their faults are reworded alike. -/
theorem LikeOutcome.mapError {ε' γ' : Type} {reword : ε → ε'} {rephrase : γ → γ'}
    {reworded : ε' → γ' → Prop} (alike : LikeOutcome faults related first other)
    (words : ∀ fault fault', faults fault fault' → reworded (reword fault) (rephrase fault')) :
    LikeOutcome reworded related (first.mapError reword) (other.mapError rephrase) := by
  -- Both faults are reworded, and the values stay.
  cases alike with
  | fault failed => exact .fault (words _ _ failed)
  | success values => exact .success values

/-- What is like a success is one. -/
theorem LikeOutcome.exists_ok {value : α} (alike : LikeOutcome faults related first other)
    (succeeded : first = .ok value) : ∃ value', other = .ok value' ∧ related value value' := by
  cases alike with
  | fault failed => contradiction
  | success values =>
    cases succeeded
    exact ⟨_, rfl, values⟩

end Joinery
