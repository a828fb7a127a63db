import TrackedQuery.Session.State

/-!
# Asking queries

A question is answered by a query at its present stage, and does not consume it.  Plans and shapes
need no database.  All other questions start the query, and unless it is only to be started, finish
it at once.
-/

namespace TrackedQuery

/-- What a question is to a query: something to compile, or something to run. -/
inductive Request where
  | ready (reply : Result Reply)
  | task (task : Result Task)

/-- A question that a query at its stage has no answer to. -/
def Request.unsuited : Request :=
  .ready (fail (.adhoc "the question does not suit the query"))

namespace Query

/-- What a question is to a query without groups and projection. -/
def request (query : Query) (context : Context) (tracking : Tracking) (thread : ThreadId)
    (question : Question) : Request :=
  match question with
  | .plan => .ready ((query.clauses.compile context none none).map .plan)
  | .pagePlans index size => .ready ((query.clauses.compilePage context index size).map .pagePlans)
  | .list => .task (query.start context tracking thread .list)
  | .first? => .task (query.start context tracking thread .first?)
  | .first text => .task (query.start context tracking thread (.first text))
  | .count => .task (query.start context tracking thread .count)
  | .any => .task (query.start context tracking thread .any)
  | .page index size => .task (query.start context tracking thread (.page index size))
  | .shape | .entities _ => .unsuited

end Query

namespace ProjectedQuery

/-- What a question is to a projection. -/
def request (query : ProjectedQuery) (context : Context) (types : String → EntityType)
    (question : Question) : Request :=
  match question with
  | .plan =>
      .ready ((query.clauses.compile context (some query.items) query.grouping).map .plan)
  | .shape => .ready (.ok (.shape query.shape))
  | .list => .task (query.start context .rows)
  | .entities entity => .task (query.start context (.entities (types entity)))
  | _ => .unsuited

end ProjectedQuery

/-- What a question is to a query at some stage. -/
def Stage.request (stage : Stage) (session : Session) (question : Question) : Request :=
  match stage with
  | .query built =>
      built.request (session.recording.contextAt built.context) session.world.tracking
        session.thread question
  | .projected built =>
      built.request (session.recording.contextAt built.context) session.typeNamed question
  | .grouped _ => .unsuited

namespace Session

/-- Finishes a task, and keeps the instances it answers. -/
def finishTask (task : Result Task) (saveAs : Option String) : SessionM (Result Outcome) := do
  match task with
  | .error error => return .error error
  | .ok task =>
      match ← inWorld task.run with
      | .error error => return .error error
      | .ok outcome =>
          match saveAs with
          | none => return .ok outcome
          | some name =>
              saveInstances name outcome.instances
              return .ok outcome

/-- Keeps an operation that was started. -/
def keepFlight (name : String) (flight : Flight) : SessionM Unit :=
  modifyThe Session fun session => { session with flights := session.flights.put name flight }

/-- Asks a query at some stage. -/
def ask (stage : Stage) (ending : Ending) : SessionM (Result Reply) := do
  match stage.request (← getThe Session) ending.question with
  | .ready reply => return reply
  | .task task =>
      match ending.startAs with
      | some name =>
          keepFlight name (.task task)
          return .ok .started
      | none => return (← finishTask task ending.saveAs).map .outcome

end Session

end TrackedQuery
