import TrackedQuery.Program.Term
import TrackedQuery.Session.Names
import TrackedQuery.Session.Script
import TrackedQuery.Tracking.Update

/-!
# The state of a session

A session runs query programs and tracking operations against a scripted database, and observes what
happens.  It keeps connections, guards, instances and operations in flight under names that all
threads share; values of forms and queries under construction belong to one thread.
-/

namespace TrackedQuery

/-- An answer to a question. -/
inductive Reply where
  | plan (plan : Plan)
  | pagePlans (plans : PagePlan)
  | shape (shape : List Ty)
  | outcome (outcome : Outcome)
  /-- The query was started and kept. -/
  | started

/-- What an observer is told on the way. -/
inductive Observation where
  | view (view : View)
  /-- The number of keys and of tables of a grouped query. -/
  | counted (keys tables : Nat)
  | reply (reply : Result Reply)
  /-- A key was referred to where there is none. -/
  | noKey

/-- An operation that was started. -/
inductive Flight where
  | task (task : Result Task)
  | update (update : Result PreparedUpdate)

/-- The state of a session. -/
structure Session where
  recording : Recording
  world : World Script
  connections : Names Connection
  /-- The manager of the next connection. -/
  nextManager : ManagerId
  types : List EntityType
  guards : Names Guard
  flights : Names Flight
  instances : Names Instance
  transactions : Names Connection
  /-- The thread that runs. -/
  thread : ThreadId
  /-- The next thread. -/
  nextThread : ThreadId
  /-- Values of forms. -/
  terms : Names Term
  stages : Names Stage
  /-- What was observed since the last step began. -/
  observations : List Observation

/-- A computation in a session. -/
abbrev SessionM := StateM Session

theorem SessionM.bind_apply {α β : Type} (run : SessionM α) (next : α → SessionM β)
    (session : Session) : (run >>= next) session = next (run session).1 (run session).2 := rfl

/-- The recording is a part of the session. -/
instance : MonadStateOf Recording SessionM where
  get := fun session => (session.recording, session)
  set recording := fun session => (⟨⟩, { session with recording := recording })
  modifyGet change := fun session =>
    let (answer, recording) := change session.recording
    (answer, { session with recording := recording })

namespace Session

/-- The name of the connection that a session begins with. -/
def mainConnection : String := "main"

/-- A session with one connection. -/
def start (connection : Connection) (types : List EntityType) : Session :=
  { recording := .empty
    world := ⟨Script.database, .empty, .empty⟩
    connections := [(mainConnection, connection)]
    nextManager := connection.manager + 1
    types := types
    guards := []
    flights := []
    instances := []
    transactions := []
    thread := 0
    nextThread := 1
    terms := []
    stages := []
    observations := [] }

/-- The entity type of the given name.  A type that was not declared reads nothing. -/
def typeNamed (session : Session) (name : String) : EntityType :=
  (session.types.find? fun type => type.name == name).getD ⟨name, []⟩

/-- The connection of the given name. -/
def connectionNamed (session : Session) (name : Option String) : Result Connection :=
  match session.connections.get? (name.getD mainConnection) with
  | some connection => .ok connection
  | none => fail (.adhoc ("unknown connection " ++ named (name.getD mainConnection)))

/-- Tells the observer. -/
def observe (observation : Observation) : SessionM Unit :=
  modifyThe Session fun session =>
    { session with observations := session.observations ++ [observation] }

/-- Runs a computation in the world of the session. -/
def inWorld {α : Type} (run : WorldM Script α) : SessionM α := fun session =>
  let (answer, world) := run session.world
  (answer, { session with world := world })

/-- Keeps a value under a name. -/
def keepTerm (name : String) (term : Term) : SessionM Unit :=
  modifyThe Session fun session => { session with terms := session.terms.put name term }

/-- The value kept under a name.  A predicate or an aggregate is kept no longer. -/
def takeTerm (name : String) : SessionM Term :=
  modifyGetThe Session fun session =>
    match session.terms.get? name with
    | none => (.nothing, session)
    | some term =>
        if term.isMoved then (term, { session with terms := session.terms.remove name })
        else (term, session)

/-- Names with a number after each common start, from a number on. -/
def saveFrom (name : String) (number : Nat) (names : Names Instance) :
    List Instance → Names Instance
  | [] => names
  | first :: rest => saveFrom name (number + 1) (names.put (name ++ toString number) first) rest

/-- Keeps instances under a name followed by their position. -/
def saveInstances (name : String) (found : List Instance) : SessionM Unit :=
  modifyThe Session fun session =>
    { session with instances := saveFrom name 0 session.instances found }

end Session

end TrackedQuery
