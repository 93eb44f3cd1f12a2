import Joinery.Database.Session
import Joinery.Proofs.Outcome

/-! Work in a session is taken apart step by step; before it is committed, nobody else sees any of it. -/

namespace Joinery

namespace SessionWork

variable {α β : Type} {work : SessionWork α} {next : α → SessionWork β} {session later : Session}
  {definition : TableDefinition} {host : Host} {row : NewRow} {key : Cell}

/-- Work goes on from where it stands, unless a fault has ended it. -/
theorem outcome_bind (work : SessionWork α) (next : α → SessionWork β) (session : Session) :
    (work >>= next).outcome session =
      match work.outcome session with
      | (.ok value, later) => (next value).outcome later
      | (.error fault, later) => (.error fault, later) := by
  -- The monad of sessions is one of faults over one of states.
  show (ExceptT.bindCont next (work.outcome session).1).run (work.outcome session).2 = _
  rcases work.outcome session with ⟨fault | value, later⟩ <;> rfl

/-- Two steps end well exactly when each of them does. -/
theorem outcome_bind_eq_ok {result : β} :
    (work >>= next).outcome session = (.ok result, later) ↔
      ∃ value between, work.outcome session = (.ok value, between) ∧
        (next value).outcome between = (.ok result, later) := by
  -- A fault of the first step is the end, and after a success the second step decides.
  rw [outcome_bind]
  rcases work.outcome session with ⟨fault | value, between⟩
  · exact iff_of_false nofun nofun
  · constructor
    · exact fun ended => ⟨value, between, rfl, ended⟩
    · rintro ⟨_, _, ⟨⟩, ended⟩
      exact ended

/-- A computation without a session neither sees it nor changes it. -/
theorem outcome_of (computed : Except StorageFault α) (session : Session) :
    outcome (liftM computed) session = (computed, session) := by
  cases computed <;> rfl

/-- A row goes into the database that the session sees; a fault changes nothing. -/
theorem outcome_insert (definition : TableDefinition) (host : Host) (row : NewRow)
    (session : Session) : (insert definition host row).outcome session =
      match session.current.insert definition host row with
      | .ok (database, key) => (.ok key, { session with current := database })
      | .error fault => (.error fault, session) := by
  rw [insert, outcome_bind]
  -- What the session sees is read, and comes before the row is stored in it.
  show SessionWork.outcome (_ >>= _) session = _
  rw [outcome_bind, outcome_of]
  rcases session.current.insert definition host row with fault | ⟨database, key⟩ <;> rfl

/-- A row is stored for a session where the database that it sees takes the row. -/
theorem outcome_insert_eq_ok : (insert definition host row).outcome session = (.ok key, later) ↔
    ∃ database, session.current.insert definition host row = .ok (database, key) ∧
      later = { session with current := database } := by
  -- The insertion either fails or shows the database that the session goes on with.
  rw [outcome_insert]
  rcases session.current.insert definition host row with fault | ⟨database, found⟩
  · exact iff_of_false nofun nofun
  · constructor
    · rintro ⟨⟩
      exact ⟨database, rfl, rfl⟩
    · rintro ⟨_, ⟨⟩, rfl⟩
      rfl

/-- Rows are counted in the database that the session sees. -/
theorem outcome_count (name : String) (session : Session) :
    (count name).outcome session = (session.current.count name, session) := by
  -- Counting looks at the database and leaves the session alone.
  rw [count, outcome_bind]
  exact outcome_of _ session

/-- Work that leaves to others what they saw before, however it ends. -/
def Uncommitted (work : SessionWork α) : Prop :=
  ∀ session, (work.outcome session).2.committed = session.committed

/-- Nothing is committed by doing nothing. -/
theorem Uncommitted.pure (value : α) : Uncommitted (Pure.pure value : SessionWork α) :=
  fun _ => rfl

/-- Nothing is committed by a fault. -/
theorem Uncommitted.throw (fault : StorageFault) : Uncommitted (MonadExcept.throw fault : SessionWork α) :=
  fun _ => rfl

/-- Nothing is committed by storing a row. -/
theorem Uncommitted.insert (definition : TableDefinition) (host : Host) (row : NewRow) :
    Uncommitted (SessionWork.insert definition host row) := by
  -- Only the database that the session sees is replaced.
  intro session
  rw [outcome_insert]
  rcases session.current.insert definition host row with fault | ⟨database, key⟩ <;> rfl

/-- Nothing is committed by steps that commit nothing. -/
theorem Uncommitted.bind (first : Uncommitted work) (second : ∀ value, Uncommitted (next value)) :
    Uncommitted (work >>= next) := by
  -- What the first step leaves uncommitted the second one does not commit.
  intro session
  have before := first session
  rw [outcome_bind]
  generalize work.outcome session = ended at *
  rcases ended with ⟨fault | value, later⟩
  · -- A fault ends the work with what the first step left.
    exact before
  · exact (second value later).trans before

/-- Nothing is committed by a loop over such steps. -/
theorem Uncommitted.forM {items : List β} {step : β → SessionWork PUnit}
    (steps : ∀ item ∈ items, Uncommitted (step item)) : Uncommitted (items.forM step) := by
  -- Each item is a step, and the rest of the loop is another.
  induction items with
  | nil => exact .pure _
  | cons item rest ih =>
    exact .bind (steps item List.mem_cons_self) fun _ =>
      ih fun other member => steps other (List.mem_cons_of_mem _ member)

end SessionWork

end Joinery
