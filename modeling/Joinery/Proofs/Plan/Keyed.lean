import Joinery.Proofs.Plan.Sorting

/-! Tables whose rows have identifiers of their own, as the database compares them. -/

namespace Joinery

/-- Every row of a table has an identifier, and no two of them are the same to the database. -/
structure EntitySchema.Keyed (entity : EntitySchema) (relation : Relation) : Prop where
  /-- Every identifier stands in a column of the table and can tell its row apart. -/
  present : ∀ row ∈ relation.rows,
    relation.hasColumn (readBack entity.identifierField) = true ∧
      (entity.identifierCell relation row).identifies = true
  /-- No two identifiers are in one place of the database's order. -/
  apart : relation.rows.Pairwise (entity.StoredApart relation)

instance (entity : EntitySchema) (relation : Relation) : Decidable (entity.Keyed relation) :=
  decidable_of_iff (_ ∧ _) ⟨fun ⟨present, apart⟩ => ⟨present, apart⟩,
    fun ⟨present, apart⟩ => ⟨present, apart⟩⟩

variable {entity : EntitySchema} {relation : Relation} {parameters : List Parameter}

/-- A ranking leaves the columns of a table where they are. -/
theorem Relation.hasColumn_ranked {name : String} (found : relation.hasColumn name = true)
    (ranking : Ranking) : (relation.ranked ranking parameters).hasColumn name = true := by
  -- Its own column stands behind them.
  obtain ⟨position, at_⟩ := Option.isSome_iff_exists.mp found
  exact Option.isSome_iff_exists.mpr ⟨position,
    Relation.position?_withRankColumn (relation.mem_of_mem_ranks ranking parameters) at_⟩

/-- What a ranking keeps of a table is told apart as the table is. -/
theorem EntitySchema.Keyed.ranked (keyed : entity.Keyed relation) (ranking : Ranking) :
    entity.Keyed (relation.ranked ranking parameters) := by
  have kept := relation.rows_ranked_sublist ranking parameters
  -- A ranked row is a row of the table with a rank behind it.
  have origin := relation.mem_of_mem_ranks ranking parameters
  have cells (ranked : Row × Nat) (inside : ranked ∈ relation.ranks ranking parameters) :
      entity.identifierCell (relation.ranked ranking parameters) (rankedRow ranked) =
        entity.identifierCell relation ranked.1 :=
    Relation.cell_ranked ranking parameters (keyed.present _ (origin ranked inside)).1
      (origin ranked inside) ranked.2
  constructor
  · intro row member
    obtain ⟨ranked, inside, rfl⟩ := List.mem_map.mp (kept.subset member)
    obtain ⟨column, usable⟩ := keyed.present _ (origin ranked inside)
    exact ⟨Relation.hasColumn_ranked column ranking, by rwa [cells ranked inside]⟩
  · -- Each row of the table is ranked once at most.
    have among : (relation.restrict ranking.conditions parameters).Pairwise
        (entity.StoredApart relation) := keyed.apart.sublist List.filter_sublist
    have apart : ((relation.ranks ranking parameters).map Prod.fst).Pairwise
        (entity.StoredApart relation) :=
      (relation.map_fst_ranks_perm ranking parameters).symm.pairwise among
        (Std.Symm.symm _ _ ·)
    refine List.Pairwise.sublist kept (List.pairwise_map.mpr ?_)
    refine (List.pairwise_map.mp apart).imp_of_mem fun {a b} insideA insideB different => ?_
    rw [StoredApart, cells a insideA, cells b insideB]
    exact different

variable {registry : Registry} {query : Query} {database : Database} {step : JoinStep} {i : Nat}

/-- A join can match rows of its table that are told apart, capped or not. -/
theorem Planning.keyed_source (parts : Planning registry query)
    (at_ : parts.order.steps[i]? = some step)
    (keyed : step.entity.Keyed (database.recordsOf step.entity)) :
    step.entity.Keyed (sourceAt
      (parts.plan.statement.sources database parts.plan.parameters) (i + 1)) := by
  -- A ranking leaves rows out and adds a column, so no two rows become one.
  obtain ⟨predicates, found, _⟩ := parts.join_at at_
  rw [Statement.sourceAt_succ found]
  unfold planJoin
  split
  · exact keyed
  · exact keyed.ranked _

/-- Tables that tell their rows apart make sources that do. -/
theorem Planning.keyed_at (parts : Planning registry query)
    (keyed : ∀ entity ∈ parts.entities, entity.Keyed (database.recordsOf entity)) {source : Nat}
    {entity : EntitySchema} (at_ : parts.entities[source]? = some entity) :
    entity.Keyed
      (sourceAt (parts.plan.statement.sources database parts.plan.parameters) source) := by
  -- Source zero is the primary table, and each other one belongs to a step.
  have own := keyed entity (List.mem_of_getElem? at_)
  cases source with
  | zero =>
    cases at_
    exact own
  | succ i =>
    simp only [entities, List.getElem?_cons_succ, List.getElem?_map,
      Option.map_eq_some_iff] at at_
    obtain ⟨step, placed, rfl⟩ := at_
    exact parts.keyed_source placed own

end Joinery
