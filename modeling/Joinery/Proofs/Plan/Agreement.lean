import Joinery.Proofs.Plan.Chains
import Joinery.Proofs.Plan.Drafting
import Joinery.Proofs.Statement.Pieces

/-! All dialects plan a query alike, with statements that differ in a few kinds of pieces only. -/

namespace Joinery

/-- A piece that dialects write alike, but for quotation marks. -/
def Piece.Alike (piece : Piece) : Prop :=
  ∃ name, ∀ dialect : Dialect,
    dialect.writePiece piece = name ∨ dialect.writePiece piece = dialect.quoteAlways name

/-- A name is quoted to itself or between quotation marks. -/
theorem Dialect.quote_cases (dialect : Dialect) (name : String) :
    dialect.quote name = name ∨ dialect.quote name = dialect.quoteAlways name := by
  -- Whether there are quotation marks depends on the name and on the dialect.
  unfold quote
  split
  · exact .inr rfl
  · exact .inl rfl

/-- What every dialect writes alike is written alike. -/
theorem Piece.Alike.fixed (text : String) : (Piece.fixed text).Alike :=
  ⟨text, fun _ => .inl rfl⟩

/-- So is a table, apart from its quotation marks. -/
theorem Piece.Alike.table (name : String) : (Piece.table name).Alike :=
  ⟨name, fun dialect => dialect.quote_cases name⟩

/-- So is a column. -/
theorem Piece.Alike.column (clause : Clause) (name : String) : (Piece.column clause name).Alike := by
  -- A column in a clause that is never quoted is written plainly.
  refine ⟨name, fun dialect => ?_⟩
  simp only [Dialect.writePiece, Dialect.spell]
  split
  · exact .inl rfl
  · exact dialect.quote_cases name

/-- A label always has its quotation marks. -/
theorem Piece.Alike.label (name : String) : (Piece.label name).Alike :=
  ⟨name, fun _ => .inr rfl⟩

/-- Dialects write a join alike, unless it ranks without an order. -/
theorem Join.pieces_alike {join : Join} {source : Nat} {piece : Piece}
    (member : piece ∈ join.pieces source) :
    piece.Alike ∨ piece = .unordered ∧ ∃ ranking ∈ join.ranking, ranking.order.getD "" = "" := by
  -- Only the order of a ranking can be missing, and then no column is written for it.
  let written (piece : Piece) : Prop :=
    piece.Alike ∨ piece = .unordered ∧ ∃ ranking ∈ join.ranking, ranking.order.getD "" = ""
  have fixed (text : String) : written (.fixed text) := .inl (.fixed text)
  have table (name : String) : written (.table name) := .inl (.table name)
  have column (clause : Clause) (name : String) : written (.column clause name) :=
    .inl (.column clause name)
  have each : ∀ piece ∈ join.pieces source, written piece := by
    rw [Join.forall_mem_pieces fixed]
    refine ⟨fun ranking given => ?_, fun _ => table _, column _ _, column _ _, fun _ _ => column _ _⟩
    rw [Ranking.forall_mem_pieces fixed, Ranking.forall_mem_orderPieces fixed]
    refine ⟨column _ _, ⟨fun none => .inr ⟨rfl, ranking, given, ?_⟩, fun _ _ => column _ _⟩,
      table _, fun _ _ => column _ _⟩
    exact ranking.termTexts_eq_nil.mp none
  exact each piece member

/--
Dialects plan a query with one fault or to one plan.

The texts of the plan are written from the same pieces. Apart from quotation marks all dialects write
them alike, but for the cap at the end and the order of a ranking whose entity has none.
-/
theorem Registry.planIn_agrees (registry : Registry) (query : Query) :
    (∃ fault, ∀ dialect, registry.planIn dialect query = .error fault) ∨
    ∃ (plan : WrittenPlan) (front back : List Piece) (joins : List (EntitySchema × List Piece))
      (cap : Int),
      (∀ dialect, registry.planIn dialect query =
        .ok { plan with
          text := dialect.write (front ++ joins.flatMap Prod.snd ++ back ++ [.cap cap]) }) ∧
      joins.map Prod.fst = plan.related ∧ (∀ piece ∈ front ++ back, piece.Alike) ∧
      ∀ join ∈ joins, ∀ piece ∈ join.2,
        piece.Alike ∨ piece = .unordered ∧ join.1.defaultOrderBy.getD "" = "" := by
  -- All dialects write one plan, and its statement is the same list of pieces for all of them.
  simp only [planIn_eq]
  cases planned : registry.plan query with
  | error fault => exact .inl ⟨fault, fun _ => rfl⟩
  | ok plan =>
    obtain ⟨parts, rfl⟩ := Registry.plan_ok planned
    have size : parts.plan.related.length = parts.plan.statement.joinPieces.length := by
      rw [Statement.joinPieces, List.length_mapIdx, parts.joins_length]
      exact List.length_map _
    refine .inr ⟨parts.plan.written .sqlite, parts.plan.statement.front, parts.plan.statement.back,
      parts.plan.related.zip parts.plan.statement.joinPieces, parts.plan.statement.cap, ?_,
      List.map_fst_zip (Nat.le_of_eq size), ?_, ?_⟩
    -- The pieces of the joins follow those of the front, entity by entity.
    · intro dialect
      have joins : (parts.plan.related.zip parts.plan.statement.joinPieces).flatMap Prod.snd =
          parts.plan.statement.joinPieces.flatten := by
        rw [List.flatMap_def, List.map_snd_zip (Nat.le_of_eq size.symm)]
      rw [joins, ← Statement.pieces, ← Dialect.statement_eq_write]
      rfl
    · rw [List.forall_mem_append, Statement.forall_mem_front Piece.Alike.fixed,
        Statement.forall_mem_back Piece.Alike.fixed]
      exact ⟨⟨fun _ _ => ⟨.column _ _, .label _⟩, .table _⟩,
        fun _ _ => .column _ _, fun _ _ => .column _ _⟩
    · rintro ⟨entity, pieces⟩ member piece inside
      -- The entity and the join stand at one place, so the join ranks as the entity says.
      obtain ⟨i, at_⟩ := List.mem_iff_getElem?.mp member
      obtain ⟨entityAt, piecesAt⟩ := List.getElem?_zip_eq_some.mp at_
      rw [Statement.joinPieces, List.getElem?_mapIdx] at piecesAt
      obtain ⟨join, joinAt, rfl⟩ := Option.map_eq_some_iff.mp piecesAt
      obtain ⟨step, predicates, stepAt, rfl, _⟩ := parts.step_at joinAt
      have found : parts.plan.related[i]? = some step.entity := by
        show (parts.order.steps.map (·.entity))[i]? = some step.entity
        rw [List.getElem?_map, stepAt, Option.map_some]
      have own : entity = step.entity := Option.some.inj (entityAt.symm.trans found)
      -- Only a ranking without an order is written in another way by a dialect.
      rcases Join.pieces_alike inside with alike | ⟨unordered, ranking, given, none⟩
      · exact .inl alike
      · rw [(planJoin_ranking _ _ _ _ ranking given).2] at none
        exact .inr ⟨unordered, own ▸ none⟩

end Joinery
