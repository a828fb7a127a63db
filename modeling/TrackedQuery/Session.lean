import TrackedQuery.Program.Evaluate

/-!
# Sessions

A session is a list of steps.  Each step answers something, and is reported together with the
operations it sent, the depth of tracking it left behind, and what was observed on the way.  Steps
may be handed to another thread, which then has the session for itself until they are done; it
shares everything but the values of forms and the queries kept under names.
-/

namespace TrackedQuery

/-- A step of a session.  Where a connection may be named, the main one is meant otherwise. -/
inductive SessionStep where
  /-- Evaluates a program, asks the resulting query, and may keep it. -/
  | query (program : Program) (endings : List Ending) (keepAs : Option String)
  /-- Evaluates forms outside of every clause. -/
  | view (forms : List Form)
  /-- Appends answers to the script of the database. -/
  | script (answers : List (Result Answer))
  | openGuard (connection : Option String) (name : String)
  | guardDepth (name : String)
  | dropGuard (name : String)
  | enterScope (connection : Option String)
  | releaseScope (connection : Option String)
  | tracker (connection : Option String)
  | snapshot (connection : Option String) (key : EntityKey)
  /-- The key of a row of an entity. -/
  | key (connection : Option String) (entity : String) (record : Row)
  /-- Keeps an instance that was not loaded. -/
  | keepInstance (name : String) (subject : Instance)
  /-- Changes fields of an instance. -/
  | setFields (name : String) (fields : List (Nat × Value))
  | addTracking (connection : Option String) (name : String)
  | addTrackingAll (connection : Option String) (entity : String) (names : List String)
  | changeSet (connection : Option String) (name : String)
  | compileUpdate (connection : Option String) (name : String)
  | execute (connection : Option String) (name : String) (startAs : Option String)
  /-- Finishes an operation that was started. -/
  | finish (name : String) (saveAs : Option String)
  | beginTransaction (connection : Option String) (name : String)
  | commit (name : String)
  | rollback (name : String)
  | dropTransaction (name : String)
  | cloneConnection (connection : Option String) (name : String)
  /-- Runs steps on another thread. -/
  | onThread (steps : List SessionStep)

mutual

/-- What a step answers. -/
inductive StepAnswer where
  | replies (replies : List (Result Reply))
  | failedStep (failure : StepFailure)
  | failed (error : Error)
  | views (views : List View)
  | number (number : Nat)
  | nothing
  | done
  | tracker (depth : Nat) (active : Bool)
  | snapshot (snapshot : Option Snapshot)
  | key (key : EntityKey)
  | keptInstance (subject : Instance)
  | changes (changes : ChangeSet)
  | update (update : Option Update)
  /-- How many rows an update wrote. -/
  | written (count : Nat)
  | reply (reply : Result Reply)
  | reports (reports : List StepReport)

/-- A step as it is reported. -/
structure StepReport where
  answer : StepAnswer
  /-- The operations that the step sent. -/
  operations : List Operation
  /-- The depth of tracking on the main connection after the step. -/
  depth : Nat
  observations : List Observation

end

/-- The answer for a result. -/
def StepAnswer.ofResult {α : Type} (answer : α → StepAnswer) : Result α → StepAnswer
  | .ok value => answer value
  | .error error => .failed error

namespace Session

/-! ## Parts of steps -/

/-- Something kept under a name, or an error. -/
def require {α : Type} (names : Names α) (kind name : String) : Result α :=
  match names.get? name with
  | some thing => .ok thing
  | none => fail (.adhoc ("unknown " ++ kind ++ " " ++ named name))

/-- Changes the tracking scopes. -/
def setTracking (session : Session) (tracking : Tracking) : Session :=
  { session with world := { session.world with tracking := tracking } }

/-- Asks a query several questions in turn. -/
def askAll (stage : Stage) : List Ending → SessionM (List (Result Reply))
  | [] => return []
  | ending :: rest => do
      let reply ← ask stage ending
      return reply :: (← askAll stage rest)

/-- What an observer sees of values, in order. -/
def viewAll : List Term → SessionM (List View)
  | [] => return []
  | term :: rest => do
      let view ← term.view
      return view :: (← viewAll rest)

/-- Evaluates a program and asks the resulting query. -/
def runQuery (program : Program) (endings : List Ending) (keepAs : Option String) :
    SessionM StepAnswer := do
  match ← program.evaluate [] with
  | .error failure => return .failedStep failure
  | .ok stage =>
      let replies ← askAll stage endings
      match keepAs with
      | none => return .replies replies
      | some name =>
          modifyThe Session fun session => { session with stages := session.stages.put name stage }
          return .replies replies

/-- Opens a guard.  A guard that was kept under the same name is dropped afterwards. -/
def openGuard (session : Session) (connection : Connection) (name : String) : Nat × Session :=
  let (guard, tracking) := session.world.tracking.openGuard session.thread connection.manager
  let depth := tracking.guardDepth guard
  let tracking :=
    match session.guards.get? name with
    | none => tracking
    | some earlier => tracking.dropGuard session.thread earlier
  (depth, { session.setTracking tracking with guards := session.guards.put name guard })

/-- Drops a guard. -/
def dropGuard (session : Session) (name : String) : Session :=
  match session.guards.get? name with
  | none => session
  | some guard =>
      { session.setTracking (session.world.tracking.dropGuard session.thread guard) with
        guards := session.guards.remove name }

/-- Changes fields of a row. -/
def setFields (record : Row) : List (Nat × Value) → Row
  | [] => record
  | (index, value) :: rest => setFields (record.set index value) rest

/-- Sends a step of a transaction. -/
def sendTransaction (step : TransactionStep) : SessionM (Result Unit) := do
  return (← inWorld (sendOperation (.transaction step))).map fun _ => ()

/-- Ends a transaction, which is kept no longer. -/
def endTransaction (name : String) (step : TransactionStep) : SessionM StepAnswer := do
  modifyThe Session fun session =>
    { session with transactions := session.transactions.remove name }
  return .ofResult (fun _ => .done) (← sendTransaction step)

/-- Finishes an operation that was started, which is kept no longer. -/
def finishFlight (name : String) (saveAs : Option String) : SessionM StepAnswer := do
  match require (← getThe Session).flights "operation" name with
  | .error error => return .failed error
  | .ok flight =>
      modifyThe Session fun session => { session with flights := session.flights.remove name }
      match flight with
      | .task task => return .reply ((← finishTask task saveAs).map .outcome)
      | .update (.error error) => return .failed error
      | .update (.ok prepared) => return .ofResult .written (← inWorld prepared.execute)

/-- Executes the update of an instance, or only starts it. -/
def execute (connection : Connection) (subject : Instance) (startAs : Option String) :
    SessionM StepAnswer := do
  let session ← getThe Session
  let prepared := connection.prepareUpdate session.world.tracking session.thread subject
  match startAs with
  | some name =>
      keepFlight name (.update prepared)
      return .reply (.ok .started)
  | none =>
      match prepared with
      | .error error => return .failed error
      | .ok prepared => return .ofResult .written (← inWorld prepared.execute)

/-- Computes an answer from a session that may change. -/
def answerWith (compute : Session → Result (StepAnswer × Session)) : SessionM StepAnswer :=
  fun session =>
    match compute session with
    | .ok (answer, session) => (answer, session)
    | .error error => (.failed error, session)

/-- The instance and the connection of the given names. -/
def subjectOf (session : Session) (connection : Option String) (name : String) :
    Result (Connection × Instance) := do
  let connection ← session.connectionNamed connection
  let subject ← require session.instances "instance" name
  return (connection, subject)

/-- The instances of the given names. -/
def instancesNamed (session : Session) : List String → Result (List Instance)
  | [] => .ok []
  | name :: rest => do
      let first ← require session.instances "instance" name
      let others ← session.instancesNamed rest
      return first :: others

/-- Captures an instance. -/
def addTracking (session : Session) (connection : Option String) (name : String) :
    Result (StepAnswer × Session) := do
  let (connection, subject) ← session.subjectOf connection name
  let tracking ← connection.addTracking session.world.tracking session.thread subject
  return (.done, session.setTracking tracking)

/-- Captures instances of an entity. -/
def addTrackingAll (session : Session) (connection : Option String) (entity : String)
    (names : List String) : Result (StepAnswer × Session) := do
  let connection ← session.connectionNamed connection
  let subjects ← session.instancesNamed names
  let (outcome, tracking) :=
    connection.addTrackingAll session.world.tracking session.thread entity subjects
  return (.ofResult (fun _ => .done) outcome, session.setTracking tracking)

/-- The operations since an earlier point of the log. -/
def operationsSince (session : Session) (position : Nat) : List Operation :=
  session.world.state.log.drop position

/-- The depth of tracking of the main connection on the thread that runs. -/
def mainDepth (session : Session) : Nat :=
  match session.connectionNamed none with
  | .ok connection => session.world.tracking.depth session.thread connection.manager
  | .error _ => 0

/-- Another thread takes over, with values and queries of its own. -/
def enterThread (session : Session) : Session :=
  { session with
    thread := session.nextThread
    nextThread := session.nextThread + 1
    terms := []
    stages := [] }

/-- The thread of an earlier point takes over again. -/
def leaveThread (session earlier : Session) : Session :=
  { session with thread := earlier.thread, terms := earlier.terms, stages := earlier.stages }

/-- Runs a step and reports it. -/
def reportStep (run : SessionM StepAnswer) : SessionM StepReport := do
  let position := (← getThe Session).world.state.log.length
  let answer ← run
  let session ← getThe Session
  modifyThe Session fun session => { session with observations := [] }
  return ⟨answer, session.operationsSince position, session.mainDepth, session.observations⟩

end Session

/-! ## Steps -/

mutual

/-- The answer of a step. -/
def SessionStep.run : SessionStep → SessionM StepAnswer
  | .query program endings keepAs => Session.runQuery program endings keepAs
  | .view forms => do
      return .views (← Session.viewAll (← Form.evaluateAll [] forms))
  | .script answers =>
      Session.answerWith fun session =>
        let script := session.world.state.push answers
        .ok (.number script.answers.length,
          { session with world := { session.world with state := script } })
  | .openGuard connection name =>
      Session.answerWith fun session => do
        let (depth, session) := session.openGuard (← session.connectionNamed connection) name
        return (.number depth, session)
  | .guardDepth name =>
      Session.answerWith fun session => do
        let guard ← Session.require session.guards "guard" name
        return (.number (session.world.tracking.guardDepth guard), session)
  | .dropGuard name => Session.answerWith fun session => .ok (.nothing, session.dropGuard name)
  | .enterScope connection =>
      Session.answerWith fun session => do
        let connection ← session.connectionNamed connection
        let (_, tracking) := session.world.tracking.enter session.thread connection.manager
        return (.nothing, session.setTracking tracking)
  | .releaseScope connection =>
      Session.answerWith fun session => do
        let connection ← session.connectionNamed connection
        return (.nothing,
          session.setTracking (session.world.tracking.release session.thread connection.manager))
  | .tracker connection =>
      Session.answerWith fun session => do
        let connection ← session.connectionNamed connection
        let tracking := session.world.tracking
        return (.tracker (tracking.depth session.thread connection.manager)
          (tracking.isActive session.thread connection.manager), session)
  | .snapshot connection probe =>
      Session.answerWith fun session => do
        let connection ← session.connectionNamed connection
        return (.snapshot
          (session.world.tracking.snapshot? session.thread connection.manager probe), session)
  | .key connection entity record =>
      Session.answerWith fun session => do
        let connection ← session.connectionNamed connection
        let entity ← connection.schema.resolve entity
        return (.key (← EntityKey.ofRecord entity record), session)
  | .keepInstance name subject =>
      Session.answerWith fun session =>
        .ok (.nothing, { session with instances := session.instances.put name subject })
  | .setFields name fields =>
      Session.answerWith fun session => do
        let subject ← Session.require session.instances "instance" name
        let changed := { subject with record := Session.setFields subject.record fields }
        return (.keptInstance changed,
          { session with instances := session.instances.put name changed })
  | .addTracking connection name =>
      Session.answerWith fun session => session.addTracking connection name
  | .addTrackingAll connection entity names =>
      Session.answerWith fun session => session.addTrackingAll connection entity names
  | .changeSet connection name =>
      Session.answerWith fun session => do
        let (connection, subject) ← session.subjectOf connection name
        let changes ← connection.changeSet session.world.tracking session.thread subject
        return (.changes changes, session)
  | .compileUpdate connection name =>
      Session.answerWith fun session => do
        let (connection, subject) ← session.subjectOf connection name
        let prepared ← connection.prepareUpdate session.world.tracking session.thread subject
        return (.update prepared.update, session)
  | .execute connection name startAs => do
      match (← getThe Session).subjectOf connection name with
      | .error error => return .failed error
      | .ok (connection, subject) => Session.execute connection subject startAs
  | .finish name saveAs => Session.finishFlight name saveAs
  | .beginTransaction connection name => do
      match (← getThe Session).connectionNamed connection with
      | .error error => return .failed error
      | .ok connection =>
          match ← Session.sendTransaction .start with
          | .error error => return .failed error
          | .ok _ =>
              modifyThe Session fun session =>
                { session with transactions := session.transactions.put name connection }
              return .done
  | .commit name => Session.endTransaction name .commit
  | .rollback name => Session.endTransaction name .rollback
  | .dropTransaction name =>
      Session.answerWith fun session =>
        .ok (.done, { session with transactions := session.transactions.remove name })
  | .cloneConnection connection name =>
      Session.answerWith fun session => do
        let connection ← session.connectionNamed connection
        let clone := { connection with manager := session.nextManager }
        return (.nothing,
          { session with
            connections := session.connections.put name clone
            nextManager := session.nextManager + 1 })
  | .onThread steps => do
      let earlier ← getThe Session
      modifyThe Session Session.enterThread
      let reports ← SessionStep.runAll steps
      modifyThe Session (·.leaveThread earlier)
      return .reports reports

/-- The reports of steps, in order. -/
def SessionStep.runAll : List SessionStep → SessionM (List StepReport)
  | [] => return []
  | step :: rest => do
      let report ← Session.reportStep step.run
      return report :: (← SessionStep.runAll rest)

end

/-- Runs a session over entities.  The main connection gets the first manager. -/
def runSession (entities : List Entity) (types : List EntityType) (tableStart : Option String)
    (options : QueryOptions) (steps : List SessionStep) : Result (List StepReport) := do
  let connection ← Connection.open entities tableStart options 0
  return ((SessionStep.runAll steps).run (Session.start connection types)).1

end TrackedQuery
