import Joinery.Proofs.Plan.Faults

/-! Steps of names, filter documents and a whole cap build queries that can be answered. -/

namespace Joinery

/-- Whether a value is a filter document: an object, or nothing. -/
def Value.isDocument : Value → Bool
  | .null | .map _ => true
  | _ => false

/-- Nothing is a document. -/
@[simp] theorem Value.isDocument_null : Value.null.isDocument = true := rfl

/-- Filters of every kind are read from documents. -/
theorem Filter.exists_ofValue {document : Value} (given : document.isDocument = true) :
    ∃ filter, Filter.ofValue document = .ok filter := by
  -- A document is null or a mapping, and both are read.
  cases document with
  | null | map => exact ⟨_, rfl⟩
  | _ => contradiction

/-- A step whose names are texts, whose filter is a document and whose cap is a declared one. -/
def QueryStep.isProper : QueryStep → Bool
  | .fromEntity entity => entity.isName
  | .whereFilter document => document.isDocument
  | .withRelated entity document parent => entity.isName && document.isDocument && parent.isName
  | .select _ => true
  | .selectFields _ _ => true
  | .limit maxRows => maxRows.isDeclaredCap

/-- The empty query is proper. -/
theorem Query.empty_proper : Query.empty.Proper :=
  ⟨rfl, by simp [empty], by simp [empty], rfl⟩

/-- A proper step makes a proper query from a proper one. -/
theorem Query.Proper.exists_apply {query : Query} (proper : query.Proper) {step : QueryStep}
    (allowed : step.isProper = true) : ∃ next, query.apply step = .ok next ∧ next.Proper := by
  -- Each kind of step sets one part of the query, and only filters have to be read.
  cases step with
  | fromEntity entity => exact ⟨_, rfl, { proper with primary := allowed }⟩
  | whereFilter document =>
    obtain ⟨filter, read⟩ := Filter.exists_ofValue allowed
    exact ⟨{ query with filter := filter }, bind_eq_ok.mpr ⟨filter, read, rfl⟩, { proper with }⟩
  | withRelated entity document parent =>
    rw [QueryStep.isProper, Bool.and_eq_true, Bool.and_eq_true] at allowed
    obtain ⟨⟨named, given⟩, hung⟩ := allowed
    obtain ⟨filter, read⟩ := Filter.exists_ofValue given
    refine ⟨{ query with related := query.related ++ [⟨entity, filter, parent⟩] },
      bind_eq_ok.mpr ⟨filter, read, rfl⟩, { proper with entities := ?_, parents := ?_ }⟩
    · simpa [or_imp, forall_and] using ⟨proper.entities, named⟩
    · simpa [or_imp, forall_and] using ⟨proper.parents, hung⟩
  | select | selectFields => exact ⟨_, rfl, { proper with }⟩
  | limit maxRows => exact ⟨_, rfl, { proper with cap := allowed }⟩

/-- Proper steps build a proper query. -/
theorem Query.Proper.exists_applyAll {query : Query} (proper : query.Proper)
    {steps : List QueryStep} (allowed : ∀ step ∈ steps, step.isProper = true) :
    ∃ built, query.applyAll steps = .ok built ∧ built.Proper := by
  -- The query is proper after every step, so the next one can be applied.
  induction steps generalizing query with
  | nil => exact ⟨query, rfl, proper⟩
  | cons step rest ih =>
    rw [List.forall_mem_cons] at allowed
    obtain ⟨next, applied, proper⟩ := proper.exists_apply allowed.1
    obtain ⟨built, others, proper⟩ := ih proper allowed.2
    exact ⟨built, bind_eq_ok.mpr ⟨next, applied, others⟩, proper⟩

/-- Steps behind others are applied to what those built. -/
theorem Query.applyAll_append (query : Query) (steps others : List QueryStep) :
    query.applyAll (steps ++ others) = query.applyAll steps >>= fun built => built.applyAll others := by
  -- Whatever is built in between, the others come behind it.
  induction steps generalizing query with
  | nil => rfl
  | cons step rest ih =>
    rw [List.cons_append, applyAll, applyAll, bind_assoc]
    exact bind_congr fun next => ih next

/-- A document holds a value under one of its keys. -/
def Value.Holds (document value : Value) : Prop :=
  ∃ fields key, document = .map fields ∧ (key, value) ∈ fields

/-- The filter document that a step comes with. -/
def QueryStep.document? : QueryStep → Option Value
  | .whereFilter document | .withRelated _ document _ => some document
  | _ => none

/-- A filter compares with what its document holds. -/
theorem Filter.holds_of_ofValue {document value : Value} {filter : Filter}
    (read : Filter.ofValue document = .ok (some filter)) (compares : filter.Compares value) :
    document.Holds value := by
  -- The filter is made of the entries that are no caps.
  cases document with
  | map fields =>
    cases read
    obtain ⟨key, member⟩ := compares
    exact ⟨fields, key, rfl, (List.mem_filter.mp member).1⟩
  | _ => cases read

/-- A step adds to what a query compares with what its document holds. -/
theorem Query.compares_of_apply {query next : Query} {step : QueryStep} {value : Value}
    (applied : query.apply step = .ok next) (compares : next.Compares value) :
    query.Compares value ∨ ∃ document ∈ step.document?, document.Holds value := by
  obtain ⟨filter, member, compares⟩ := compares
  cases step with
  | whereFilter document =>
    obtain ⟨read?, read, same⟩ := bind_eq_ok.mp applied
    cases same
    -- The filter on the primary entity is replaced, and the others stay.
    rcases List.mem_append.mp member with main | related
    · cases Option.mem_toList.mp main
      exact .inr ⟨document, rfl, Filter.holds_of_ofValue read compares⟩
    · exact .inl ⟨filter, List.mem_append_right _ related, compares⟩
  | withRelated entity document parent =>
    obtain ⟨read?, read, same⟩ := bind_eq_ok.mp applied
    cases same
    -- One filter comes behind the others.
    rw [filters, List.flatMap_append, ← List.append_assoc] at member
    rcases List.mem_append.mp member with before | last
    · exact .inl ⟨filter, before, compares⟩
    · rw [List.flatMap_singleton] at last
      cases Option.mem_toList.mp last
      exact .inr ⟨document, rfl, Filter.holds_of_ofValue read compares⟩
  | fromEntity | select | selectFields | limit =>
    cases applied
    exact .inl ⟨filter, member, compares⟩

/-- A query that is built in steps compares with what the documents of the steps hold. -/
theorem Query.compares_of_applyAll {query built : Query} {steps : List QueryStep} {value : Value}
    (applied : query.applyAll steps = .ok built) (compares : built.Compares value) :
    query.Compares value ∨ ∃ step ∈ steps, ∃ document ∈ step.document?, document.Holds value := by
  -- What the next query compares with came with the first step or was there before.
  induction steps generalizing query with
  | nil =>
    cases applied
    exact .inl compares
  | cons step rest ih =>
    obtain ⟨next, first, others⟩ := bind_eq_ok.mp applied
    rcases ih others with before | ⟨later, member, found⟩
    · exact (compares_of_apply first before).imp_right fun found => ⟨step, List.mem_cons_self, found⟩
    · exact .inr ⟨later, List.mem_cons_of_mem _ member, found⟩

/-- Only a selection changes which entities a query keeps. -/
theorem Query.selectedEntities_of_apply {query next : Query} {step : QueryStep}
    (other : ∀ names, step ≠ .select names) (applied : query.apply step = .ok next) :
    next.selectedEntities = query.selectedEntities := by
  -- The other steps set other parts.
  cases step with
  | select names => exact absurd rfl (other names)
  | whereFilter | withRelated =>
    obtain ⟨_, _, same⟩ := bind_eq_ok.mp applied
    cases same
    rfl
  | _ => cases applied; rfl

/-- Steps without a selection keep what a query keeps. -/
theorem Query.selectedEntities_of_applyAll {query built : Query} {steps : List QueryStep}
    (others : ∀ step ∈ steps, ∀ names, step ≠ .select names)
    (applied : query.applyAll steps = .ok built) :
    built.selectedEntities = query.selectedEntities := by
  -- The selection is carried through the steps one by one.
  induction steps generalizing query with
  | nil => cases applied; rfl
  | cons step rest ih =>
    obtain ⟨next, first, later⟩ := bind_eq_ok.mp applied
    rw [List.forall_mem_cons] at others
    rw [ih others.2 later, selectedEntities_of_apply others.1 first]

end Joinery
