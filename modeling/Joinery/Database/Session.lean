import Joinery.Database.Storage

/-! Sessions with a database: what a session stores is seen by others once it is committed. -/

namespace Joinery

/-- A session with a database. -/
structure Session where
  /-- The database as others see it. -/
  committed : Database
  /-- The database as the session itself sees it. -/
  current : Database
  deriving DecidableEq, Repr

/-- Work in a session; a fault leaves the session as it is at that point. -/
abbrev SessionWork := ExceptT StorageFault (StateM Session)

/-- The number of rows that the session sees in a table. -/
def SessionWork.count (name : String) : SessionWork Nat := do
  (← get).current.count name

/-- Stores a row for the session; the answer has its key. -/
def SessionWork.insert (definition : TableDefinition) (host : Host) (row : NewRow) :
    SessionWork Cell := do
  let session ← get
  let (database, key) ← session.current.insert definition host row
  set { session with current := database }
  return key

/-- Lets others see everything that the session has stored. -/
def SessionWork.commit : SessionWork Unit :=
  modify fun session => { session with committed := session.current }

/-- How work ends that begins with a session, and the session after it. -/
def SessionWork.outcome {α : Type} (work : SessionWork α) (session : Session) :
    Except StorageFault α × Session :=
  (ExceptT.run work).run session

/-- Does work in a session of its own; what is not committed at its end is given up. -/
def Database.inSession {α : Type} (database : Database) (work : SessionWork α) :
    Database × Except StorageFault α :=
  let (answer, session) := work.outcome ⟨database, database⟩
  (session.committed, answer)

end Joinery
