import Joinery.Proofs.Outcome
import Joinery.Proofs.Value.Entries
import Joinery.Query.Basic

/-! Steps that say the same in other words build queries that do. -/

namespace Joinery

/-- How the words of one query correspond to those of another one. -/
structure Wording where
  /-- Which names of entities correspond. -/
  names : Value → Value → Prop
  /-- Which texts correspond. -/
  texts : String → String → Prop
  /-- Which documents of filters correspond. -/
  documents : Value → Value → Prop
  /-- Which filters correspond. -/
  filters : Filter → Filter → Prop
  /-- A missing name corresponds to itself. -/
  unnamed : names .null .null
  /-- Texts that correspond have one form in lower case. -/
  folded : ∀ text other, texts text other → lowered other = lowered text
  /-- Documents that correspond are refused alike, or give filters that correspond. -/
  read : ∀ document other, documents document other →
    SameOutcome (Option.Rel filters) (Filter.ofValue document) (Filter.ofValue other)

/-- Two steps that say the same in corresponding words. -/
inductive QueryStep.Retold (wording : Wording) : QueryStep → QueryStep → Prop where
  /-- Both set the primary entity. -/
  | fromEntity {entity other : Value} (name : wording.names entity other) :
    Retold wording (.fromEntity entity) (.fromEntity other)
  /-- Both set the filter on it. -/
  | whereFilter {document other : Value} (filter : wording.documents document other) :
    Retold wording (.whereFilter document) (.whereFilter other)
  /-- Both join a related entity. -/
  | withRelated {entity other document paired parent above : Value}
    (name : wording.names entity other) (filter : wording.documents document paired)
    (hung : wording.names parent above) :
    Retold wording (.withRelated entity document parent) (.withRelated other paired above)
  /-- Both keep entities. -/
  | select {entities others : List String} (names : List.Forall₂ wording.texts entities others) :
    Retold wording (.select entities) (.select others)
  /-- Both keep fields of an entity. -/
  | selectFields {entity other : String} {fields others : List String}
    (name : wording.texts entity other) (names : List.Forall₂ wording.texts fields others) :
    Retold wording (.selectFields entity fields) (.selectFields other others)
  /-- Both cap the joined rows, with one cap. -/
  | limit (maxRows : Value) : Retold wording (.limit maxRows) (.limit maxRows)

/-- Two requests that say the same in corresponding words. -/
structure RelatedRequest.Retold (wording : Wording) (request other : RelatedRequest) : Prop where
  /-- They name corresponding entities. -/
  entity : wording.names request.entity other.entity
  /-- They have corresponding filters. -/
  filter : Option.Rel wording.filters request.filter other.filter
  /-- They name corresponding parents. -/
  parent : wording.names request.parent other.parent

/-- Two lists with the same texts among them. -/
def SameMembers (texts others : List String) : Prop :=
  ∀ text, text ∈ others ↔ text ∈ texts

/-- Two lists with the same texts among them, letter case aside. -/
def SameFolded (texts others : List String) : Prop :=
  SameMembers (texts.map lowered) (others.map lowered)

/-- Two queries that say the same in corresponding words. -/
structure Query.Retold (wording : Wording) (query other : Query) : Prop where
  /-- They name corresponding primary entities. -/
  primary : wording.names query.primary other.primary
  /-- They have corresponding filters on them. -/
  filter : Option.Rel wording.filters query.filter other.filter
  /-- Their requests correspond. -/
  related : List.Forall₂ (RelatedRequest.Retold wording) query.related other.related
  /-- They keep the same entities, letter case aside. -/
  selectedEntities : other.selectedEntities.map lowered = query.selectedEntities.map lowered
  /-- They keep the same fields, letter case aside. -/
  selectedFields : Entries.Beside SameFolded query.selectedFields other.selectedFields
  /-- They have one cap on joined rows. -/
  maxRows : other.maxRows = query.maxRows

variable {wording : Wording} {query other : Query}

/-- Queries that ask for nothing say the same. -/
theorem Query.Retold.empty (wording : Wording) : Query.empty.Retold wording .empty where
  -- Without a name, the wording says nothing about it.
  primary := wording.unnamed
  filter := .none
  related := .nil
  selectedEntities := rfl
  selectedFields := .nil
  maxRows := rfl

/-- Queries that say the same do so from either side, where their names and filters do. -/
theorem Query.Retold.symm (names : ∀ name other, wording.names name other → wording.names other name)
    (filters : ∀ filter other, wording.filters filter other → wording.filters other filter)
    (retold : query.Retold wording other) : other.Retold wording query := by
  -- Filters, requests and lists are turned around one by one.
  have turned {filter changed : Option Filter} (same : Option.Rel wording.filters filter changed) :
      Option.Rel wording.filters changed filter := by
    cases same with
    | none => exact .none
    | some same => exact .some (filters _ _ same)
  refine ⟨names _ _ retold.primary, turned retold.filter, ?_, retold.selectedEntities.symm, ?_,
    retold.maxRows.symm⟩
  · exact retold.related.flip.imp fun _ _ same =>
      ⟨names _ _ same.entity, turned same.filter, names _ _ same.parent⟩
  · exact retold.selectedFields.flip.imp fun _ _ same =>
      ⟨same.1.symm, fun text => (same.2 text).symm⟩

/-- The plans of queries that say the same keep the same fields. -/
theorem Query.Retold.keptFields (retold : query.Retold wording other) :
    Entries.Beside SameMembers
      (Entries.ofPairs (query.selectedFields.map fun (key, fields) =>
        (lowered key, fields.map lowered)))
      (Entries.ofPairs (other.selectedFields.map fun (key, fields) =>
        (lowered key, fields.map lowered))) := by
  -- Keys and fields are put in lower case one by one, which leaves the entries side by side.
  refine Entries.Beside.ofPairs
    (List.forall₂_map_left_iff.mpr (List.forall₂_map_right_iff.mpr ?_))
  exact retold.selectedFields.imp fun _ _ same => ⟨congrArg lowered same.1, same.2⟩

/-- Corresponding texts are the same in lower case, one by one. -/
theorem Wording.map_lowered {texts others : List String}
    (correspond : List.Forall₂ wording.texts texts others) :
    others.map lowered = texts.map lowered := by
  -- Each pair has one form in lower case.
  induction correspond with
  | nil => rfl
  | cons head _ ih => rw [List.map_cons, List.map_cons, wording.folded _ _ head, ih]

/-- The fields that are kept after others were added are those kept before and the added ones. -/
theorem mem_addedFields (kept fields : List String) (text : String) :
    text ∈ (addedFields kept fields).map lowered ↔
      text ∈ kept.map lowered ∨ text ∈ fields.map lowered := by
  -- A field that is not added again is among those that are kept already.
  rw [addedFields, List.map_append, List.mem_append]
  refine or_congr_right' fun absent => ⟨fun added => ?_, fun inside => ?_⟩
  · obtain ⟨field, member, rfl⟩ := List.mem_map.mp added
    exact List.mem_map_of_mem (List.mem_of_mem_filter member)
  · obtain ⟨field, member, rfl⟩ := List.mem_map.mp inside
    refine List.mem_map_of_mem (List.mem_filter.mpr ⟨member, ?_⟩)
    simpa using fun found => absent (List.mem_map_of_mem found)

/-- Corresponding fields are added to the same ones. -/
theorem SameFolded.added {kept keptToo fields others : List String}
    (same : SameFolded kept keptToo) (added : others.map lowered = fields.map lowered) :
    SameFolded (addedFields kept fields) (addedFields keptToo others) := by
  -- What is listed afterwards was listed before or has been added.
  intro text
  rw [mem_addedFields, mem_addedFields, same text, added]

/-- A step in other words leads from queries that say the same to such queries, or is refused alike. -/
theorem Query.Retold.apply (retold : query.Retold wording other) {step paired : QueryStep}
    (steps : step.Retold wording paired) :
    SameOutcome (Query.Retold wording) (query.apply step) (other.apply paired) := by
  cases steps with
  | fromEntity name => exact .success { retold with primary := name }
  | whereFilter filter =>
    -- A document that is no filter is refused before anything is set.
    refine (wording.read _ _ filter).bind fun _ _ filters => .success ?_
    exact { retold with filter := filters }
  | withRelated name filter hung =>
    refine (wording.read _ _ filter).bind fun _ _ filters => .success ?_
    exact { retold with
      related := List.rel_append retold.related (.cons ⟨name, filters, hung⟩ .nil) }
  | select names => exact .success { retold with selectedEntities := wording.map_lowered names }
  | @selectFields entity paired fields others name names =>
    refine .success { retold with selectedFields := ?_ }
    -- The fields are kept under the name in lower case, beside those that are kept there already.
    simp only [Query.selectFields, wording.folded _ _ name]
    have kept : SameFolded ((query.selectedFields.get? (lowered entity)).getD [])
        ((other.selectedFields.get? (lowered entity)).getD []) := by
      have found := retold.selectedFields.get? (lowered entity)
      generalize query.selectedFields.get? (lowered entity) = first,
        other.selectedFields.get? (lowered entity) = second at found
      cases found with
      | none => exact fun _ => .rfl
      | some same => exact same
    exact retold.selectedFields.insert _ (kept.added (wording.map_lowered names))
  | limit maxRows => exact .success { retold with maxRows := rfl }

/-- Steps in other words, one after the other, build queries that say the same, or are refused alike. -/
theorem Query.Retold.applyAll (retold : query.Retold wording other) {steps others : List QueryStep}
    (same : List.Forall₂ (QueryStep.Retold wording) steps others) :
    SameOutcome (Query.Retold wording) (query.applyAll steps) (other.applyAll others) := by
  -- After each step the queries say the same again, so the induction goes on from there.
  induction same generalizing query other with
  | nil => exact .success retold
  | cons head _ ih => exact (retold.apply head).bind fun _ _ next => ih next

end Joinery
