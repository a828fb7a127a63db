import TrackedQuery.Database.Load
import TrackedQuery.Query

/-!
# Running queries

A query is run in two parts.  Starting it checks that it can be run and compiles it, and notes the
scope that captures its instances; an error of this part is kept until the result is asked for.
Finishing it sends its plans and reads the answers.  Between the two, scopes may be entered and
released.
-/

namespace TrackedQuery

variable {δ : Type}

/-- What can be asked of a query. -/
inductive Terminal where
  /-- All its instances. -/
  | list
  /-- The first instance, if there is one. -/
  | first?
  /-- The first instance; that there is none is an error with the given text. -/
  | first (text : Option String)
  | count
  /-- Whether there is a row. -/
  | any
  /-- A page of instances, counted from 1. -/
  | page (index size : Int)

/-- What can be asked of a projection. -/
inductive ProjectedTerminal where
  /-- All its rows. -/
  | rows
  /-- All its rows, as instances of an entity. -/
  | entities (type : EntityType)

/-- One page of instances. -/
structure Page where
  /-- The number of rows on all pages. -/
  total : Nat
  items : List Instance

/-- What a query that was run answers. -/
inductive Outcome where
  | list (instances : List Instance)
  | first? (found : Option Instance)
  | first (found : Instance)
  | count (number : Nat)
  | any (found : Bool)
  | page (page : Page)
  | rows (rows : List Row)

/-- The instances in an outcome. -/
def Outcome.instances : Outcome → List Instance
  | .list instances => instances
  | .first? found => found.toList
  | .first found => [found]
  | .page result => result.items
  | .count _ | .any _ | .rows _ => []

/-- A query that was started. -/
inductive Task where
  /-- Loads instances and makes something of them. -/
  | load (schema : Schema) (type : EntityType) (plan : Plan) (scope : Option ScopeId)
      (finish : List Instance → Result Outcome)
  /-- Counts rows and makes something of their number. -/
  | count (plan : Plan) (finish : Nat → Outcome)
  | page (schema : Schema) (type : EntityType) (plans : PagePlan) (scope : Option ScopeId)
  | rows (plan : Plan)
  /-- Widens rows and loads them. -/
  | widen (schema : Schema) (type : EntityType) (plan : Plan) (layout : Layout)

namespace Task

/-- Runs a query that was started. -/
def run : Task → WorldM δ (Result Outcome)
  | .load schema type plan scope finish => do
      return (← loadPlan schema type plan scope).bind finish
  | .count plan finish => do
      return (← fetchCount plan).map finish
  | .page schema type plans scope => do
      match ← fetchCount plans.count with
      | .error error => return .error error
      | .ok 0 => return .ok (.page ⟨0, []⟩)
      | .ok total =>
          return (← loadPlan schema type plans.data scope).map fun instances =>
            .page ⟨total, instances.take plans.size⟩
  | .rows plan => do
      return (← fetchRows plan).map .rows
  | .widen schema type plan layout => do
      match (← fetchRows plan).bind layout.widenAll with
      | .error error => return .error error
      | .ok widened => return (← loadRows schema type none widened).map .list

end Task

/-! ## Starting -/

/-- The connection that a query is run on. -/
def homeOf (home : Option Connection) : Result Connection :=
  match home with
  | some connection => .ok connection
  | none => fail (.invalidStatement .detachedQuery)

namespace Query

/-- The scope that the instances of a tracked query are captured in. -/
def trackingScope (query : Query) (connection : Connection) (tracking : Tracking)
    (thread : ThreadId) : Result (Option ScopeId) :=
  if query.clauses.tracking then
    (tracking.requireActive thread connection.manager "as_tracking").map some
  else .ok none

/-- Starts loading the instances of a query with the given clauses. -/
def startLoad (query : Query) (clauses : Clauses) (context : Context) (tracking : Tracking)
    (thread : ThreadId) (finish : List Instance → Result Outcome) : Result Task := do
  let connection ← homeOf query.home
  let scope ← query.trackingScope connection tracking thread
  let plan ← clauses.compile context none none
  return .load connection.schema query.base plan scope finish

/-- Starts counting the rows of a query. -/
def startCount (query : Query) (context : Context) (finish : Nat → Outcome) : Result Task := do
  let _ ← homeOf query.home
  let plan ← query.clauses.compileCount context
  return .count plan finish

/-- The first instance, as an outcome. -/
def required (text : Option String) (instances : List Instance) : Result Outcome :=
  match instances with
  | found :: _ => .ok (.first found)
  | [] => fail (.entityNotFound text)

/-- Starts a query. -/
def start (query : Query) (context : Context) (tracking : Tracking) (thread : ThreadId) :
    Terminal → Result Task
  | .list => query.startLoad query.clauses context tracking thread (.ok ∘ Outcome.list)
  | .first? =>
      query.startLoad { query.clauses with limit := some 1 } context tracking thread
        (fun instances => .ok (.first? instances.head?))
  | .first text =>
      query.startLoad { query.clauses with limit := some 1 } context tracking thread
        (required text)
  | .count => query.startCount context .count
  | .any => query.startCount context (fun number => .any (0 < number))
  | .page index size => do
      let connection ← homeOf query.home
      let scope ← query.trackingScope connection tracking thread
      let plans ← query.clauses.compilePage context index size
      return .page connection.schema query.base plans scope

end Query

/-- Starts a projection. -/
def ProjectedQuery.start (query : ProjectedQuery) (context : Context) :
    ProjectedTerminal → Result Task
  | .rows => do
      let _ ← homeOf query.home
      return .rows (← query.clauses.compile context (some query.items) query.grouping)
  | .entities type => do
      let connection ← homeOf query.home
      let plan ← query.clauses.compile context (some query.items) query.grouping
      let entity ← connection.schema.resolve type.name
      match ← Layout.forEntity entity plan with
      | none => return .load connection.schema type plan none (.ok ∘ Outcome.list)
      | some layout => return .widen connection.schema type plan layout

end TrackedQuery
