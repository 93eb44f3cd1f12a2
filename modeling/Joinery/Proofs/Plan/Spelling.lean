import Joinery.Proofs.Plan.Columns
import Joinery.Proofs.Plan.Placeholders
import Joinery.Proofs.Statement.Pieces

/-! Statements spell each column as their dialect quotes it, but for the columns that rankings go by. -/

namespace Joinery

section Quoting

variable {dialect : Dialect} {name : String}

/-- No character of a name is left out between quotation marks. -/
theorem Dialect.length_le_quotedChars (dialect : Dialect) (chars : List Char) :
    chars.length ≤ (chars.flatMap dialect.quotedChar).length := by
  induction chars with
  | nil => exact Nat.le_refl _
  | cons c rest ih =>
    -- A character is written once or, where it has to be told from a mark, twice.
    have written : 1 ≤ (dialect.quotedChar c).length := by
      unfold quotedChar doubled
      grind
    rw [List.flatMap_cons, List.length_append, List.length_cons]
    omega

/-- Quotation marks change a name. -/
theorem Dialect.quoteAlways_ne (dialect : Dialect) (name : String) :
    dialect.quoteAlways name ≠ name := by
  -- There are two characters more than before, at least.
  have inside := dialect.length_le_quotedChars name.toList
  have marked : (dialect.quoteAlways name).toList.length =
      (name.toList.flatMap dialect.quotedChar).length + 2 := by
    unfold quoteAlways
    split <;> simp
  intro same
  rw [same] at marked
  omega

/-- A name is quoted to itself exactly when it needs no quotation marks. -/
theorem Dialect.quote_eq_self_iff : dialect.quote name = name ↔ dialect.needsQuotes name = false := by
  -- Unneeded quotation marks are left out, and needed ones change the name.
  unfold Dialect.quote
  split
  · rename_i needed
    simp [needed, dialect.quoteAlways_ne name]
  · rename_i plain
    simpa using plain

/-- The empty text has not the form of a name. -/
theorem ne_empty_of_isName (named : isName name = true) : name ≠ "" := by
  rintro rfl
  contradiction

/-- A name is spelled as the dialect quotes it, outside of rankings or where it needs no marks. -/
theorem Dialect.quote?_eq_spell_iff {clause : Clause} (named : isName name = true) :
    dialect.quote? name false = .ok (dialect.spell clause name) ↔
      (clause = .ranked → dialect.needsQuotes name = false) := by
  have quoted : dialect.quote? name false = .ok (dialect.quote name) := by
    simp [quote?, ne_empty_of_isName named]
  rw [quoted, Except.ok.injEq, spell]
  -- Rankings leave out the marks that quoting adds; all other clauses quote.
  split
  · rename_i ranked
    simp [ranked, quote_eq_self_iff]
  · rename_i other
    simp [other]

/-- The field that a term of an order names is the name that is written in it. -/
theorem orderedName_of_orderedField? {term : List Char} {field : String}
    (read : orderedField? term = some field) : orderedName term = field := by
  -- A term names a field only when what is written has the form of a name.
  unfold orderedField? at read
  unfold orderedName
  dsimp only at read
  split at read
  · contradiction
  · rename_i written
    split at read
    · rw [written]
      exact Option.some.inj read
    · contradiction

end Quoting

variable {registry : Registry} {query : Query} {plan : Plan} {step : JoinStep}

/-- A term of the order of a well-formed entity names one of its fields. -/
theorem EntitySchema.WellFormed.isName_orderedName {entity : EntitySchema}
    (formed : entity.WellFormed) {term : List Char} (member : term ∈ entity.orderTerms) :
    orderedField? term = some (orderedName term) ∧ isName (orderedName term) = true := by
  -- A term is only accepted for a field that it names.
  have accepted := formed.order term member
  unfold EntitySchema.acceptsTerm at accepted
  cases read : orderedField? term with
  | none => simp [read] at accepted
  | some field =>
    rw [read, Option.any_some] at accepted
    rw [orderedName_of_orderedField? read]
    exact ⟨rfl, formed.isName_field accepted⟩

/-- A planned join ranks by the terms of its entity's order. -/
theorem planJoin_termTexts (steps : List JoinStep) (predicates : List Predicate)
    {ranking : Ranking} (given : ranking ∈ (planJoin registry steps step predicates).ranking) :
    ranking.termTexts = step.entity.orderTerms := by
  -- The terms are split off the order, which is that of the entity.
  have same := (planJoin_ranking _ _ _ _ ranking given).2
  unfold Ranking.termTexts EntitySchema.orderTerms
  generalize ranking.order = written, step.entity.defaultOrderBy = order at same ⊢
  subst same
  cases written <;> rfl

/-- A planned join ranks exactly where its records are capped. -/
theorem planJoin_isRanked (steps : List JoinStep) (predicates : List Predicate) :
    (planJoin registry steps step predicates).ranking.isSome =
      (registry.entityLimit step.filter).isSome := by
  -- There is a ranking where there is a cap.
  unfold planJoin
  cases registry.entityLimit step.filter <;> rfl

/-- Rankings go by the columns in the terms of their orders and by no others. -/
theorem Statement.mem_pieces_ranked {statement : Statement} {name : String} :
    .column .ranked name ∈ statement.pieces ↔ ∃ join ∈ statement.joins, ∃ ranking ∈ join.ranking,
      ∃ term ∈ ranking.termTexts, orderedName term = name := by
  -- No other piece is the column, so it is absent exactly when it is in no term.
  let other (piece : Piece) : Prop := piece ≠ .column .ranked name
  have fixed (text : String) : other (.fixed text) := nofun
  have absent : (∀ piece ∈ statement.pieces, other piece) ↔
      ∀ join ∈ statement.joins, ∀ ranking ∈ join.ranking, ∀ term ∈ ranking.termTexts,
        orderedName term ≠ name := by
    rw [forall_mem_pieces fixed, forall_mem_front fixed, forall_mem_back fixed]
    simp only [Join.forall_mem_pieces fixed, Ranking.forall_mem_pieces fixed,
      Ranking.forall_mem_orderPieces fixed]
    simp [other]
  have missing : .column .ranked name ∉ statement.pieces ↔ ∀ piece ∈ statement.pieces, other piece :=
    ⟨fun missing piece member same => missing (same ▸ member), fun each member => each _ member rfl⟩
  rw [← not_iff_not, missing, absent]
  simp only [not_exists, not_and, ne_eq]

/-- A piece with a name of the right form where it is a column. -/
def Piece.Named (piece : Piece) : Prop :=
  ∀ clause name, piece = .column clause name → isName name = true

/-- A column whose name has that form is such a piece. -/
theorem Piece.named_column {clause : Clause} {name : String} (formed : isName name = true) :
    (Piece.column clause name).Named := by
  -- The piece has no other name.
  rintro _ _ ⟨⟩
  exact formed

/-- What every dialect writes alike is one as well, since it is no column. -/
theorem Piece.named_fixed (text : String) : (Piece.fixed text).Named :=
  nofun

/-- The columns of a planned join are named, those of its ranking too. -/
theorem Planning.named_join (parts : Planning registry query) (faultless : registry.Faultless)
    {join : Join} (member : join ∈ parts.plan.statement.joins) (source : Nat) :
    ∀ piece ∈ join.pieces source, piece.Named := by
  obtain ⟨step, inside, _, filter, built, rfl⟩ := parts.exists_step member
  obtain ⟨_, childIn⟩ := parts.mem_entities inside
  obtain ⟨_, parentIn⟩ := parts.parent_mem_entities inside
  have formed := EntitySchema.wellFormed_of_checked (faultless.entities _ _ childIn)
  obtain ⟨parentKey, childKey⟩ := faultless.isName_joinKeys parentIn childIn
  -- The predicates stand inside the ranking or beside the keys, but they are the same ones.
  have compared := planFilter_isName formed built
  rw [← planJoin_predicates registry parts.order.steps step filter.predicates] at compared
  rw [Join.forall_mem_pieces Piece.named_fixed, planJoin_key, planJoin_parent]
  refine ⟨fun ranking given => ?_, fun _ => nofun, Piece.named_column childKey,
    Piece.named_column parentKey, fun predicate listed =>
      Piece.named_column (compared predicate (List.mem_append_right _ listed))⟩
  have key := (planJoin_ranking _ _ _ _ ranking given).1
  rw [Ranking.forall_mem_pieces Piece.named_fixed, Ranking.forall_mem_orderPieces Piece.named_fixed,
    planJoin_termTexts _ _ given, key]
  refine ⟨Piece.named_column childKey, ⟨nofun, fun term listed => ?_⟩, nofun,
    fun predicate listed => Piece.named_column (compared predicate (List.mem_append_left _ ?_))⟩
  · exact Piece.named_column (formed.isName_orderedName listed).2
  · rw [Option.mem_def.mp given]
    exact listed

/-- Every column of a planned statement is named. -/
theorem Planning.named_pieces (parts : Planning registry query) (faultless : registry.Faultless) :
    ∀ piece ∈ parts.plan.statement.pieces, piece.Named := by
  -- Every entity stands in the registry, so the names of its fields have been checked.
  have known {entity : EntitySchema} (inside : entity ∈ parts.entities) : entity.WellFormed := by
    obtain ⟨_, entityIn⟩ := parts.registered inside
    exact EntitySchema.wellFormed_of_checked (faultless.entities _ _ entityIn)
  have primary : parts.primary ∈ parts.entities := List.mem_cons_self
  rw [Statement.forall_mem_pieces Piece.named_fixed, Statement.forall_mem_front Piece.named_fixed,
    Statement.forall_mem_back Piece.named_fixed]
  refine ⟨⟨fun selected inside => ⟨?_, nofun⟩, nofun⟩,
    fun join inside source => parts.named_join faultless inside source,
    ⟨fun predicate inside => ?_, fun ref inside => ?_⟩, nofun⟩
  · obtain ⟨_, entity, field, at_, declared, rfl⟩ := parts.mem_columns.mp inside
    exact Piece.named_column ((known (List.mem_of_getElem? at_)).fields field declared)
  · exact Piece.named_column (planFilter_isName (known primary) parts.narrowed predicate inside)
  · obtain ⟨_, entity, at_, rfl⟩ := parts.mem_order.mp inside
    have formed := known (List.mem_of_getElem? at_)
    exact Piece.named_column (formed.isName_field formed.identifier)

/-- Rankings of a planned statement go by the fields that order capped entities. -/
theorem Planning.mem_pieces_ranked (parts : Planning registry query) (faultless : registry.Faultless)
    {name : String} :
    .column .ranked name ∈ parts.plan.statement.pieces ↔ ∃ step ∈ parts.order.steps,
      (registry.entityLimit step.filter).isSome = true ∧
        ∃ term ∈ step.entity.orderTerms, orderedField? term = some name := by
  rw [Statement.mem_pieces_ranked]
  constructor
  -- A join that ranks belongs to a step with a cap, and a step with a cap has a join that ranks.
  · rintro ⟨join, member, ranking, given, term, listed, rfl⟩
    obtain ⟨i, at_⟩ := List.mem_iff_getElem?.mp member
    obtain ⟨step, predicates, placed, rfl, _⟩ := parts.step_at at_
    have inside := List.mem_of_getElem? placed
    obtain ⟨_, entityIn⟩ := parts.mem_entities inside
    have formed := EntitySchema.wellFormed_of_checked (faultless.entities _ _ entityIn)
    rw [planJoin_termTexts _ _ given] at listed
    refine ⟨step, inside, ?_, term, listed, (formed.isName_orderedName listed).1⟩
    rw [← planJoin_isRanked parts.order.steps predicates, Option.mem_def.mp given]
    rfl
  · rintro ⟨step, inside, capped, term, listed, named⟩
    obtain ⟨i, placed⟩ := List.mem_iff_getElem?.mp inside
    obtain ⟨predicates, at_, _⟩ := parts.join_at placed
    rw [← planJoin_isRanked parts.order.steps predicates] at capped
    obtain ⟨ranking, given⟩ := Option.isSome_iff_exists.mp capped
    rw [← planJoin_termTexts _ _ given] at listed
    exact ⟨_, List.mem_of_getElem? at_, ranking, given, term, listed,
      orderedName_of_orderedField? named⟩

/--
A statement that is planned by a registry that was read spells every column as its dialect quotes it,
apart from those that rankings go by. It spells all of them so exactly when no field that orders a
capped entity needs quotation marks.
-/
theorem Registry.columns_quoted_iff {document : Value} (read : ofDocument document = .ok registry)
    (planned : registry.plan query = .ok plan) (dialect : Dialect) :
    ∃ order, JoinOrder.ofRequests registry plan.primary query.related = .ok order ∧
      dialect.statement plan.statement = dialect.write plan.statement.pieces ∧
      (∀ clause name, .column clause name ∈ plan.statement.pieces → clause ≠ .ranked →
        dialect.quote? name false = .ok (dialect.spell clause name)) ∧
      ((∀ clause name, .column clause name ∈ plan.statement.pieces →
          dialect.quote? name false = .ok (dialect.spell clause name)) ↔
        ∀ step ∈ order.steps, (registry.entityLimit step.filter).isSome = true →
          ∀ term ∈ step.entity.orderTerms, ∀ field ∈ orderedField? term,
            dialect.needsQuotes field = false) := by
  have faultless := (consistent_of_ofDocument read).faultless
  obtain ⟨parts, rfl⟩ := Registry.plan_ok planned
  have named := parts.named_pieces faultless
  -- A named column is spelled as it is quoted unless a ranking goes by it and it needs marks.
  refine ⟨parts.order, parts.ordered, dialect.statement_eq_write _, ?_, ?_, ?_⟩
  · intro clause name member other
    refine (Dialect.quote?_eq_spell_iff (named _ member _ _ rfl)).mpr ?_
    exact fun ranked => absurd ranked other
  · intro quoted step inside capped term listed field told
    have member := (parts.mem_pieces_ranked faultless).mpr
      ⟨step, inside, capped, term, listed, told⟩
    exact (Dialect.quote?_eq_spell_iff (named _ member _ _ rfl)).mp
      (quoted _ _ member) rfl
  · intro plain clause name member
    refine (Dialect.quote?_eq_spell_iff (named _ member _ _ rfl)).mpr ?_
    rintro rfl
    obtain ⟨step, inside, capped, term, listed, told⟩ :=
      (parts.mem_pieces_ranked faultless).mp member
    exact plain step inside capped term listed name told

/-- The document of owners and their visits, which are ordered by a date of the given name. -/
def visitDocument (date : String) : Value :=
  .map [("entities", .map [
    ("Owner", entityDocument "owner" [("id", "string")] ["id"] .null []),
    ("Visit", entityDocument "visit" [("id", "integer"), ("owner", "string"), (date, "datetime")]
      [date] (.text (date ++ " DESC")) [("Owner", .map [("foreignKey", .text "owner")])])])]

/-- A query of an owner with the last visit that has a date. -/
def visitQuery (date : String) : Query where
  primary := .text "Owner"
  filter := some ⟨[("id", .text "A")], none⟩
  related := [⟨.text "Visit", some ⟨[(date, .map [("$ne", .null)])], some 1⟩, .null⟩]
  selectedEntities := []
  selectedFields := []
  maxRows := .null

/-- The registry of owners and their visits, which are ordered by a plain name. -/
def visitRegistry : Registry :=
  (Registry.ofDocument (visitDocument "day")).toOption.get (by decide +kernel)

/-- The plan of the query of the last visit. -/
def visitPlan : Plan := (visitRegistry.plan (visitQuery "day")).toOption.get (by decide +kernel)

/-- The joins of the query of the last visit. -/
def visitOrder : JoinOrder :=
  (JoinOrder.ofRequests visitRegistry visitPlan.primary (visitQuery "day").related).toOption.get
    (by decide +kernel)

/-- The last visit is queried for by a statement that spells the day alike in all of its parts. -/
theorem visitPlan_columns_quoted :
    Registry.ofDocument (visitDocument "day") = .ok visitRegistry ∧
    visitRegistry.plan (visitQuery "day") = .ok visitPlan ∧
    .column .ranked "day" ∈ visitPlan.statement.pieces ∧
    ∀ (dialect : Dialect) clause name, .column clause name ∈ visitPlan.statement.pieces →
      dialect.quote? name false = .ok (dialect.spell clause name) := by
  -- Registry and plan are known, and the order of the last visits is the day, which needs no marks.
  have read : Registry.ofDocument (visitDocument "day") = .ok visitRegistry := eq_ok_get _
  have planned : visitRegistry.plan (visitQuery "day") = .ok visitPlan := eq_ok_get _
  refine ⟨read, planned, by decide +kernel, fun dialect => ?_⟩
  obtain ⟨order, ordered, _, _, alike⟩ := Registry.columns_quoted_iff read planned dialect
  have found : JoinOrder.ofRequests visitRegistry visitPlan.primary (visitQuery "day").related =
      .ok visitOrder := eq_ok_get _
  cases ordered.symm.trans found
  refine alike.mpr ?_
  cases dialect <;> decide +kernel

/-- The registry of owners and their visits, which are ordered by a name in mixed case. -/
def datedRegistry : Registry :=
  (Registry.ofDocument (visitDocument "visitedOn")).toOption.get (by decide +kernel)

/-- The plan of the query of the last visit there. -/
def datedPlan : Plan := (datedRegistry.plan (visitQuery "visitedOn")).toOption.get (by decide +kernel)

/--
A field whose name needs quotation marks is spelled without them where visits are ranked by it, and with
them everywhere else in the same statement.
-/
theorem Registry.columns_not_quoted :
    ¬ (∀ document registry query plan, Registry.ofDocument document = .ok registry →
      registry.plan query = .ok plan → ∀ (dialect : Dialect) clause name,
        .column clause name ∈ plan.statement.pieces →
          dialect.quote? name false = .ok (dialect.spell clause name)) ∧
    Registry.ofDocument (visitDocument "visitedOn") = .ok datedRegistry ∧
    datedRegistry.plan (visitQuery "visitedOn") = .ok datedPlan ∧
    datedPlan.statement.joins.map Dialect.postgres.joined =
      ["(SELECT * FROM (SELECT *, ROW_NUMBER() OVER (PARTITION BY owner ORDER BY visitedOn DESC) " ++
        "AS _rn FROM visit WHERE \"visitedOn\" IS NOT NULL) ranked WHERE _rn <= 1)"] := by
  -- The day is written with a capital letter now, which takes marks in one place and not in the other.
  have read : Registry.ofDocument (visitDocument "visitedOn") = .ok datedRegistry := eq_ok_get _
  have planned : datedRegistry.plan (visitQuery "visitedOn") = .ok datedPlan := eq_ok_get _
  refine ⟨fun quoted => ?_, read, planned, by decide +kernel⟩
  have ranked : .column .ranked "visitedOn" ∈ datedPlan.statement.pieces := by decide +kernel
  have bare : Dialect.postgres.quote? "visitedOn" false = .ok "visitedOn" :=
    quoted _ _ _ _ read planned .postgres _ _ ranked
  have marked : Dialect.postgres.quote? "visitedOn" false = .ok "\"visitedOn\"" :=
    congrArg Except.ok (by decide +kernel)
  exact absurd (Except.ok.inj (bare.symm.trans marked)) (by decide)

end Joinery
