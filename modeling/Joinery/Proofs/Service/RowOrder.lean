import Joinery.Proofs.Database.Ties
import Joinery.Proofs.Plan.Keyed
import Joinery.Proofs.Service.Running

/-! The order in which tables store their rows plays no part in an answer. -/

namespace Joinery

variable {registry : Registry} {query : Query} {parts : Planning registry query}
  {database stored : Database}

/-- Sources that tell their rows apart do so in any order of the rows. -/
theorem Planning.SourcesApart.reordered (apart : parts.SourcesApart database)
    (alike : SourcesReordered
      (parts.plan.statement.sources database parts.plan.parameters)
      (parts.plan.statement.sources stored parts.plan.parameters)) :
    parts.SourcesApart stored := by
  -- What tells two rows apart are cells, which do not turn on the order of the rows.
  intro source entity at_
  have same := alike source
  have cells : entity.StoredApart
      (sourceAt (parts.plan.statement.sources stored parts.plan.parameters) source) =
      entity.StoredApart
        (sourceAt (parts.plan.statement.sources database parts.plan.parameters) source) := by
    funext a b
    simp only [EntitySchema.StoredApart, EntitySchema.identifierCell,
      Relation.cell_congr same.columns]
  simp only
  rw [cells]
  -- A relation between any two rows of a list holds in every order of the list.
  exact same.rows.symm.pairwise (apart source entity at_) (Std.Symm.symm _ _ ·)

/-- The joined rows are sorted in one way, however the tables store theirs. -/
theorem Planning.sortedRows_reordered (reordered : database.Reordered stored)
    (unranked : ∀ join ∈ parts.plan.statement.joins, join.ranking = none)
    (apart : parts.SourcesApart database) :
    parts.plan.statement.sortedRows stored parts.plan.parameters =
      parts.plan.statement.sortedRows database parts.plan.parameters := by
  have alike := reordered.sourcesReordered unranked parts.plan.parameters
  -- Both databases join the same rows, each of them once.
  have joined : (parts.plan.statement.joinedRows stored parts.plan.parameters).Perm
      (parts.plan.statement.joinedRows database parts.plan.parameters) := by
    refine (List.perm_ext_iff_of_nodup (nodup_joinedRows (apart.reordered alike))
      (nodup_joinedRows apart)).mpr fun row => ?_
    rw [Statement.mem_joinedRows_iff parts.parentsBefore,
      Statement.mem_joinedRows_iff parts.parentsBefore, reordered.fits_iff unranked]
  -- No two of them are in one place, so there is one sorted order.
  rw [Statement.sortedRows, Statement.sortedRows]
  unfold Statement.sortedBefore
  rw [alike.sortKey_eq]
  exact mergeSort_eq_of_perm orderCells _ joined (pairwise_sortKey apart)

/-- A statement without rankings is carried out to the same rows, or to the same fault. -/
theorem Planning.run_reordered (reordered : database.Reordered stored)
    (unranked : ∀ join ∈ parts.plan.statement.joins, join.ranking = none)
    (apart : parts.SourcesApart database) :
    parts.plan.run stored = parts.plan.run database := by
  -- The sources have the same rows, and sorting leaves no choice between them.
  have alike := reordered.sourcesReordered unranked parts.plan.parameters
  have returned : parts.plan.statement.resultRows stored parts.plan.parameters =
      parts.plan.statement.resultRows database parts.plan.parameters :=
    congrArg (capRows parts.plan.statement.cap) (sortedRows_reordered reordered unranked apart)
  simp only [Plan.run, reordered.check_eq alike, returned, alike.fetchRow_eq]

/--
Answers do not depend on the order in which tables store their rows.

This holds for every query that puts no limit on a related entity, whatever its cap on joined rows cuts off,
as long as no two rows of a table have identifiers that are the same to the database.
-/
theorem Service.execute_reordered {levels : Nat} (reordered : database.Reordered stored)
    (unlimited : ∀ request ∈ query.related, registry.entityLimit request.filter = none)
    (apart : ∀ plan, registry.plan query = .ok plan → ∀ entity ∈ plan.primary :: plan.related,
      (database.recordsOf entity).rows.Pairwise
        (entity.StoredApart (database.recordsOf entity)))
    (signal : CancelSignal) :
    Service.execute ⟨registry, stored, levels⟩ query signal =
      Service.execute ⟨registry, database, levels⟩ query signal := by
  simp only [execute]
  cases planned : registry.plan query with
  | error fault => rfl
  | ok plan =>
    obtain ⟨parts, rfl⟩ := Registry.plan_ok planned
    have uncapped : ∀ step ∈ parts.order.steps, registry.entityLimit step.filter = none := by
      intro step inside
      obtain ⟨request, member, _, same⟩ := parts.sound.requested step inside
      rw [same]
      exact unlimited request member
    have unranked : ∀ join ∈ parts.plan.statement.joins, join.ranking = none := by
      intro join member
      obtain ⟨i, at_⟩ := List.mem_iff_getElem?.mp member
      obtain ⟨step, predicates, placed, rfl, _⟩ := parts.step_at at_
      simp only [planJoin, uncapped step (List.mem_of_getElem? placed)]
    -- Without rankings the sources are the tables.
    have sources : parts.SourcesApart database := by
      intro source entity at_
      simp only [parts.source_uncapped database uncapped at_]
      exact apart _ planned entity (List.mem_of_getElem? at_)
    simp only [carryOut, Plan.execute, Planning.run_reordered reordered unranked sources]

/-- The database of owners and pets with its rows stored the other way round. -/
def turnedPetDatabase : Database where
  tables := petDatabase.tables.map fun table =>
    ⟨table.name, table.relation.reorder _ (List.reverse_perm _)⟩
  distinct := by decide

/-- The plan of the query of all pets, cut off after two joined rows. -/
def twoPetsPlan : Plan :=
  (petService.registry.plan ((petQuery none).limit (.int 2))).toOption.get (by decide +kernel)

/-- The query of all pets, cut off after two joined rows, has one answer for both. -/
theorem Service.pets_reordered :
    petDatabase.Reordered turnedPetDatabase ∧
    (∀ request ∈ ((petQuery none).limit (.int 2)).related,
      petRegistry.entityLimit request.filter = none) ∧
    (∀ plan, petRegistry.plan ((petQuery none).limit (.int 2)) = .ok plan →
      ∀ entity ∈ plan.primary :: plan.related, (petDatabase.recordsOf entity).rows.Pairwise
        (entity.StoredApart (petDatabase.recordsOf entity))) ∧
    Service.execute ⟨petRegistry, turnedPetDatabase, 900⟩ ((petQuery none).limit (.int 2)) .quiet =
      Service.execute ⟨petRegistry, petDatabase, 900⟩ ((petQuery none).limit (.int 2)) .quiet := by
  -- The rows of each table are turned around.
  have reordered : petDatabase.Reordered turnedPetDatabase := by
    refine Database.reordered_of_tables (List.forall₂_map_right_iff.mpr ?_)
    exact List.forall₂_same.mpr fun table _ => ⟨rfl, rfl, List.reverse_perm _⟩
  have unlimited : ∀ request ∈ ((petQuery none).limit (.int 2)).related,
      petRegistry.entityLimit request.filter = none := by decide +kernel
  have planned : petRegistry.plan ((petQuery none).limit (.int 2)) = .ok twoPetsPlan := eq_ok_get _
  -- Every row has an identifier of its own.
  have apart : ∀ plan, petRegistry.plan ((petQuery none).limit (.int 2)) = .ok plan →
      ∀ entity ∈ plan.primary :: plan.related, (petDatabase.recordsOf entity).rows.Pairwise
        (entity.StoredApart (petDatabase.recordsOf entity)) := by
    intro plan found
    cases planned.symm.trans found
    decide +kernel
  exact ⟨reordered, unlimited, apart,
    Service.execute_reordered reordered unlimited apart .quiet⟩

end Joinery
