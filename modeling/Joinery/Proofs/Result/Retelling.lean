import Joinery.Proofs.Outcome
import Joinery.Proofs.Query.Retelling
import Joinery.Result.Gathering

/-! Plans that gather the same records make results that differ in what they tell of left out fields. -/

namespace Joinery

/-- Two plans that take the same records from the same rows, and keep the same of them. -/
structure Plan.SameRecords (plan other : Plan) : Prop where
  /-- The primary entity is the same. -/
  primary : other.primary = plan.primary
  /-- So are the related entities. -/
  related : other.related = plan.related
  /-- The same warnings come up in planning. -/
  warnings : other.warnings = plan.warnings
  /-- The same entities are kept. -/
  selectedEntities : other.selectedEntities = plan.selectedEntities
  /-- The same fields are kept. -/
  selectedFields : Entries.Beside SameMembers plan.selectedFields other.selectedFields

/-- Two results that differ in the words of their errors and in the fields that they call left out. -/
structure QueryResult.Retold (words : String → String → Prop)
    (fields : List String → List String → Prop) (result other : QueryResult) : Prop where
  /-- Both are a success, or none is. -/
  success : other.success = result.success
  /-- They give the same records. -/
  data : other.data = result.data
  /-- They give the same numbers of records. -/
  counts : other.counts = result.counts
  /-- They tell of related errors, or of none. -/
  error : Option.Rel words result.error other.error
  /-- They tell the same of the plan, and then of related fields that were left out. -/
  warnings : ∃ told rejected others, result.warnings = told ++ rejected.map ignoredFieldWarning ∧
    other.warnings = told ++ others.map ignoredFieldWarning ∧ fields rejected others

variable {plan other : Plan} {words : String → String → Prop}
  {fields : List String → List String → Prop}

/-- The same fields of an entity are kept, or all of them. -/
theorem Plan.SameRecords.keptFields (same : plan.SameRecords other) (key : String) :
    Option.Rel SameMembers (plan.keptFields? key) (other.keptFields? key) := by
  have found := same.selectedFields.get? key
  rw [keptFields?, keptFields?]
  generalize plan.selectedFields.get? key = first, other.selectedFields.get? key = second at found
  cases found with
  | none => exact .none
  | @some fields others members =>
    -- One list is empty exactly when nothing is in the other.
    have empty : others.isEmpty = fields.isEmpty := by
      rw [Bool.eq_iff_iff, List.isEmpty_iff, List.isEmpty_iff, List.eq_nil_iff_forall_not_mem,
        List.eq_nil_iff_forall_not_mem]
      exact forall_congr' fun field => not_congr (members field)
    rw [Option.filter_some, Option.filter_some, empty]
    split
    · exact .some members
    · exact .none

/-- The same is left of every record. -/
theorem Plan.SameRecords.project (same : plan.SameRecords other) : other.project = plan.project := by
  -- Both keep all fields of an entity, or the fields of one list.
  funext key record
  have kept := same.keptFields key
  rw [Plan.project, Plan.project]
  generalize plan.keptFields? key = first, other.keptFields? key = second at kept
  cases kept with
  | none => rfl
  | some members =>
    refine List.filter_congr fun (name, _) _ => ?_
    rw [Bool.eq_iff_iff, List.contains_iff_mem, List.contains_iff_mem]
    exact members (lowered name)

/-- Rows are gathered alike by all plans of one primary entity. -/
theorem Gathering.addAll_congr (primary : other.primary = plan.primary) (gathering : Gathering)
    (rows : List Value) : gathering.addAll other rows = gathering.addAll plan rows := by
  have value (gathering : Gathering) (row : Value) :
      gathering.addValue other row = gathering.addValue plan row := by
    cases row <;> simp only [addValue, add, primary]
  -- One row adds the same to both, and where it cannot be read both stop.
  induction rows generalizing gathering with
  | nil => rfl
  | cons row rest ih =>
    rw [addAll, addAll, value]
    simp only [ih]

/-- The sections of both are the same. -/
theorem Plan.SameRecords.sections (same : plan.SameRecords other) (gathering : Gathering) :
    gathering.sections other = gathering.sections plan := by
  -- Both keep the same entities and leave the same of each record.
  have keeps : other.keeps = plan.keeps := by
    funext key
    rw [Plan.keeps, Plan.keeps, same.selectedEntities]
  have branch : Branch.section other = Branch.section plan := by
    funext branch
    rw [Branch.section, Branch.section, same.project]
  rw [Gathering.sections, Gathering.sections, Gathering.primarySection, Gathering.primarySection,
    same.primary, same.project, keeps]
  simp only [branch]

/-- Results of the same records differ in the fields that they call left out. -/
theorem Plan.SameRecords.toResult (same : plan.SameRecords other)
    (rejected : fields plan.rejectedFields other.rejectedFields) (gathering : Gathering) :
    (gathering.toResult plan).Retold words fields (gathering.toResult other) := by
  have told : other.warningTexts = plan.warningTexts := by
    rw [Plan.warningTexts, Plan.warningTexts, same.warnings]
  -- The warnings of planning come first, and then one for each field that was left out.
  refine ⟨rfl, ?_, ?_, .none, plan.warningTexts, _, _, rfl, ?_, rejected⟩
  · simp only [Gathering.toResult, same.sections]
  · simp only [Gathering.toResult, same.sections]
  · simp only [Gathering.toResult, told]

/-- The same rows make such results, or none. -/
theorem Plan.SameRecords.materialize (same : plan.SameRecords other)
    (rejected : fields plan.rejectedFields other.rejectedFields) (rows : List Value) :
    SameOutcome (QueryResult.Retold words fields) (plan.materialize rows)
      (other.materialize rows) := by
  -- Both start with the same branches, and rows are added without a look at what is kept.
  have start : Gathering.start other = Gathering.start plan := by
    rw [Gathering.start, Gathering.start, same.related]
  rw [Plan.materialize, Plan.materialize, start, Gathering.addAll_congr same.primary]
  refine (SameOutcome.refl _).bind fun gathering _ gathered => .success ?_
  subst gathered
  exact same.toResult rejected gathering

end Joinery
