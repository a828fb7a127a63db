import TrackedQuery.Proofs.Tracking.Threads
import TrackedQuery.Query.Terminal
import TrackedQuery.Tracking.Update

/-!
# Operations as sequences of accesses

An operation of a handle looks at what its thread is attached to, changes a scope under its lock and
asks the database, one after the other, and others may come in between any two of these.  An
`Access` is what cannot be divided, and a `Flow` is an operation as a tree of accesses: what it does
next depends on what it found.

A flow does not know where a scope is stored.  It names a scope by a `Grip`, the position among the
scopes that it found itself, and so it has no way to a scope that only others found.  Guards, tasks
and prepared updates hold a grip where they note a scope.

A flow can be run without interruption by whoever answers its accesses (`Flow.run`).  Run in the
world, each of the flows here does what the operation of its name does (`HandleCall.run_flow`).
-/

namespace TrackedQuery

variable {δ σ α β : Type}

/-! ## Accesses and flows -/

/-- Where scopes are entered: on a thread, by the manager of a handle. -/
@[ext] structure Place where
  thread : ThreadId
  manager : ManagerId
deriving DecidableEq

/-- Where a handle enters scopes on a thread. -/
def Connection.place (connection : Connection) (thread : ThreadId) : Place :=
  ⟨thread, connection.manager⟩

@[simp] theorem Connection.thread_place (connection : Connection) (thread : ThreadId) :
    (connection.place thread).thread = thread := rfl

@[simp] theorem Connection.manager_place (connection : Connection) (thread : ThreadId) :
    (connection.place thread).manager = connection.manager := rfl

/-- Names a scope: its position among the scopes that a flow found. -/
abbrev Grip := Nat

/-- What is done without interruption, and what it answers. -/
inductive Access : Type → Type 1 where
  /-- Finds the scope to enter: the current one, or else a fresh one that becomes it. -/
  | lookUp : Access Grip
  /-- Finds the scope that the thread is attached to. -/
  | current : Access (Option Grip)
  /-- Reads and changes a scope under its lock. -/
  | locked {ρ : Type} (grip : Grip) (change : Scope → ρ × Scope) : Access ρ
  /-- The thread forgets a scope if it is attached to it. -/
  | forget (grip : Grip) : Access Unit
  /-- The database answers an operation. -/
  | send (operation : Operation) : Access (Result Answer)

/-- Answers accesses, and goes on in another state. -/
structure Handler (σ : Type) where
  answer : {ρ : Type} → Access ρ → σ → ρ × σ

/-- An operation that is done access by access. -/
inductive Flow (α : Type) : Type 1 where
  | done (value : α)
  | access {ρ : Type} (first : Access ρ) (next : ρ → Flow α)

namespace Flow

/-- Continues a flow when it is done. -/
def andThen : Flow α → (α → Flow β) → Flow β
  | .done value, next => next value
  | .access first rest, next => .access first fun reply => (rest reply).andThen next

instance : Monad Flow where
  pure := .done
  bind := .andThen

/-- Runs a flow without interruption. -/
def run (handler : Handler σ) : Flow α → σ → α × σ
  | .done value, state => (value, state)
  | .access first next, state =>
      (next (handler.answer first state).1).run handler (handler.answer first state).2

variable (handler : Handler σ) (state : σ)

@[simp] theorem run_pure (value : α) :
    (pure value : Flow α).run handler state = (value, state) := rfl

@[simp] theorem run_bind (flow : Flow α) (next : α → Flow β) :
    (flow >>= next).run handler state =
      (next (flow.run handler state).1).run handler (flow.run handler state).2 := by
  show (flow.andThen next).run handler state = _
  induction flow generalizing state with
  | done value => rfl
  | access first rest ih => exact ih _ _

/-! ## The operations -/

/-- A single access. -/
def perform (access : Access α) : Flow α := .access access .done

/-- Reads a scope. -/
def look (grip : Grip) (read : Scope → α) : Flow α :=
  perform (.locked grip fun scope => (read scope, scope))

/-- Changes a scope. -/
def modify (grip : Grip) (change : Scope → Scope) : Flow Unit :=
  perform (.locked grip fun scope => ((), change scope))

/-- The number of levels entered on the thread. -/
def depth : Flow Nat := do
  match ← perform .current with
  | none => return 0
  | some grip => look grip Scope.depth

/-- Whether the thread is in a scope. -/
def isActive : Flow Bool := do
  return decide ((← depth) > 0)

/-- The scope that the thread is in. -/
def active? : Flow (Option Grip) := do
  match ← perform .current with
  | none => return none
  | some grip => return if (← look grip Scope.depth) > 0 then some grip else none

/-- The scope that the thread is in, on behalf of the named operation. -/
def requireActive (operation : String) : Flow (Result Grip) := do
  match ← active? with
  | none => return fail (.trackingNotActive operation)
  | some grip => return .ok grip

/-- The snapshot of a key in the scope of the thread. -/
def snapshot? (key : EntityKey) : Flow (Option Snapshot) := do
  match ← perform .current with
  | none => return none
  | some grip => look grip (·.snapshot? key)

/-- Whether the scope of the thread has a snapshot of a key. -/
def isTracked (key : EntityKey) : Flow Bool := do
  return (← snapshot? key).isSome

/-- Enters one level, and answers a grip for the guard of it. -/
def openGuard : Flow Grip := do
  let grip ← perform .lookUp
  modify grip Scope.enter
  return grip

/-- Enters one level without a guard. -/
def enter : Flow Unit := do
  let _ ← openGuard
  return ()

/-- Releases one level of a scope, and forgets it with the last one. -/
def releaseAt (grip : Grip) : Flow Unit := do
  let last ← perform (.locked grip fun scope =>
    (scope.depth == 1, if scope.depth = 0 then scope else scope.release))
  if last then perform (.forget grip) else return ()

/-- Releases one level of the current scope. -/
def release : Flow Unit := do
  match ← perform .current with
  | none => return ()
  | some grip => releaseAt grip

/-- Captures the row of an instance in a scope. -/
def captureAt (grip : Grip) (key : EntityKey) (record : Row) (operation : String) :
    Flow (Result Unit) :=
  perform (.locked grip fun scope =>
    if scope.depth = 0 then (fail (.trackingNotActive operation), scope)
    else (.ok (), scope.capture ⟨key, record⟩))

/-- Captures an instance on behalf of its owner. -/
def addTracking (connection : Connection) (subject : Instance) : Flow (Result Unit) :=
  match connection.schema.resolve subject.entity with
  | .error error => return .error error
  | .ok entity =>
      match EntityKey.ofRecord entity subject.record with
      | .error error => return .error error
      | .ok key => do
          match ← requireActive "add_tracking" with
          | .error error => return .error error
          | .ok grip => captureAt grip key subject.record "add_tracking"

/-- Captures instances of an entity one after the other. -/
def captureEach (entity : Entity) (grip : Grip) : List Instance → Flow (Result Unit)
  | [] => return .ok ()
  | subject :: rest =>
      match EntityKey.ofRecord entity subject.record with
      | .error error => return .error error
      | .ok key => do
          match ← captureAt grip key subject.record "add_tracking" with
          | .error error => return .error error
          | .ok () => captureEach entity grip rest

/-- Captures instances of the entity of the given name. -/
def addTrackingAll (connection : Connection) (entity : String) (subjects : List Instance) :
    Flow (Result Unit) := do
  match ← requireActive "add_tracking" with
  | .error error => return .error error
  | .ok grip =>
      match connection.schema.resolve entity with
      | .error error => return .error error
      | .ok entity => captureEach entity grip subjects

/-- The change set of an instance as it stands. -/
def changeSet (connection : Connection) (subject : Instance) : Flow (Result ChangeSet) :=
  match connection.schema.resolve subject.entity with
  | .error error => return .error error
  | .ok entity =>
      match EntityKey.ofRecord entity subject.record with
      | .error error => return .error error
      | .ok key => do
          match ← active? with
          | none => return ChangeSet.compute entity subject.record none
          | some grip =>
              let known ← look grip (·.snapshot? key)
              return ChangeSet.compute entity subject.record (known.map Snapshot.record)

/-- Prepares the update of an instance. -/
def prepareUpdate (connection : Connection) (subject : Instance) : Flow (Result PreparedUpdate) :=
  match connection.schema.resolve subject.entity with
  | .error error => return .error error
  | .ok entity => do
      match ← changeSet connection subject with
      | .error error => return .error error
      | .ok changes =>
          let update := if changes.changes.isEmpty then none else some (changes.toUpdate entity)
          match changes.mode with
          | .full => return .ok ⟨changes.key, subject.record, none, update⟩
          | .diff => return .ok ⟨changes.key, subject.record, ← active?, update⟩

/-- Sends a prepared update and answers how many rows it wrote. -/
def execute (prepared : PreparedUpdate) : Flow (Result Nat) :=
  match prepared.update with
  | none => return .ok 0
  | some update => do
      match ← perform (.send (.update update)) with
      | .error error => return .error error
      | .ok answer =>
          match prepared.scope with
          | none => return .ok answer.toCount
          | some grip =>
              modify grip (·.refresh prepared.key prepared.record)
              return .ok answer.toCount

/-! ### Queries -/

/-- Sends a plan and reads rows. -/
def fetchRows (plan : Plan) : Flow (Result (List Row)) := do
  return (← perform (.send (.query plan))).bind Answer.toRows

/-- Sends a plan and reads a count. -/
def fetchCount (plan : Plan) : Flow (Result Nat) := do
  return (← perform (.send (.query plan))).bind Answer.counted

/-- Captures a row before it is loaded, if rows are tracked. -/
def captureRow (entity : Entity) (scope : Option Grip) (row : Row) : Flow (Result Unit) :=
  match scope with
  | none => return .ok ()
  | some grip =>
      match EntityKey.ofRecord entity row with
      | .error error => return .error error
      | .ok key => captureAt grip key row "as_tracking"

/-- Loads rows one after the other. -/
def loadEach (entity : Entity) (type : EntityType) (scope : Option Grip) :
    List Row → Flow (Result (List Instance))
  | [] => return .ok []
  | row :: rest =>
      if row.length = entity.columns.length then do
        match ← captureRow entity scope row with
        | .error error => return .error error
        | .ok () =>
            match type.load row with
            | .error error => return .error error
            | .ok loaded => return (← loadEach entity type scope rest).map (loaded :: ·)
      else return fail (.database (.rowWidth entity.columns.length type.name row.length))

/-- Loads rows as instances of an entity type. -/
def loadRows (schema : Schema) (type : EntityType) (scope : Option Grip) (rows : List Row) :
    Flow (Result (List Instance)) :=
  match schema.resolve type.name with
  | .error error => return .error error
  | .ok entity => loadEach entity type scope rows

/-- Sends a plan and loads the rows of the answer. -/
def loadPlan (schema : Schema) (type : EntityType) (plan : Plan) (scope : Option Grip) :
    Flow (Result (List Instance)) := do
  match ← fetchRows plan with
  | .error error => return .error error
  | .ok rows => loadRows schema type scope rows

/-- Runs a query that was started. -/
def finish : Task → Flow (Result Outcome)
  | .load schema type plan scope finish => do
      return (← loadPlan schema type plan scope).bind finish
  | .count plan finish => do
      return (← fetchCount plan).map finish
  | .page schema type plans scope => do
      match ← fetchCount plans.count with
      | .error error => return .error error
      | .ok 0 => return .ok (.page ⟨0, []⟩)
      | .ok total =>
          return (← loadPlan schema type plans.data scope).map fun instances =>
            .page ⟨total, instances.take plans.size⟩
  | .rows plan => do
      return (← fetchRows plan).map .rows
  | .widen schema type plan layout => do
      match (← fetchRows plan).bind layout.widenAll with
      | .error error => return .error error
      | .ok widened => return (← loadRows schema type none widened).map .list

end Flow

end TrackedQuery
