import TrackedQuery.Proofs.Tracking.Seat
import TrackedQuery.Proofs.Tracking.Task

/-!
# Calls

A `HandleCall` is what is called on a handle from one thread, and its `Reply` is what the caller
gets to see.  The main statement is `HandleCall.run_flow`: a call that nobody interrupts is the same
whether it is done access by access (`HandleCall.flow`) or in one go on all scopes
(`HandleCall.perform`).
-/

namespace TrackedQuery

variable {δ : Type} {seat : Seat δ}

/-! ## Starting queries -/

/-- The query is run on the given connection, if it can be run at all. -/
def Query.on (query : Query) (connection : Connection) : Query :=
  { query with home := query.home.map fun _ => connection }

/-- The scopes of a thread that is in the given scope or in none. -/
def Tracking.inside (place : Place) : Option ScopeId → Tracking
  | none => .empty
  | some scope =>
      { scopes := List.replicate (scope + 1) Scope.fresh.enter
        attachments := [⟨place.thread, place.manager, scope⟩] }

@[simp] theorem Tracking.active?_inside (place : Place) (scope : Option ScopeId) :
    (Tracking.inside place scope).active? place.thread place.manager = scope := by
  cases scope with
  | none => rfl
  | some scope => simp [inside, active?, current?, scopeAt, Option.filter_some, Scope.fresh]

section Starting

variable {query : Query} {connection : Connection} {tracking renamed : Tracking}
  {thread : ThreadId} {rename : ScopeId → ScopeId}

private theorem Query.trackingScope_rename
    (same : query.clauses.tracking = true → renamed.active? thread connection.manager =
      (tracking.active? thread connection.manager).map rename) :
    query.trackingScope connection renamed thread =
      (query.trackingScope connection tracking thread).map (Option.map rename) := by
  unfold trackingScope Tracking.requireActive
  by_cases tracked : query.clauses.tracking = true
  · rw [if_pos tracked, if_pos tracked, same tracked]
    cases tracking.active? thread connection.manager <;> rfl
  · rw [if_neg tracked, if_neg tracked]
    rfl

/-- A task that is built for the tracking scope notes it where the scope is noted. -/
theorem Query.build_rename {build : Connection → Option ScopeId → Result Task}
    (noted : ∀ home scope, build home (scope.map rename) =
      (build home scope).map (Task.mapScope rename))
    (same : query.clauses.tracking = true → renamed.active? thread connection.manager =
      (tracking.active? thread connection.manager).map rename) :
    (do
        let home ← homeOf (query.on connection).home
        let scope ← (query.on connection).trackingScope home renamed thread
        build home scope) =
      Except.map (Task.mapScope rename) (do
        let home ← homeOf (query.on connection).home
        let scope ← (query.on connection).trackingScope home tracking thread
        build home scope) := by
  cases home : query.home with
  | none =>
      simp only [on, home]
      rfl
  | some _ =>
      have own : homeOf (query.on connection).home = .ok connection := by
        rw [on, home]
        rfl
      have scope : (query.on connection).trackingScope connection renamed thread = _ :=
        trackingScope_rename same
      simp only [own, scope, bind, Except.bind]
      cases (query.on connection).trackingScope connection tracking thread with
      | error error => rfl
      | ok scope => exact noted connection scope

/-- What is started depends on the scope that the thread is in, and on no other. -/
theorem Query.start_rename (context : Context) (terminal : Terminal)
    (same : (query.clauses.tracking && terminal.loads) = true →
      renamed.active? thread connection.manager =
        (tracking.active? thread connection.manager).map rename) :
    (query.on connection).start context renamed thread terminal =
      ((query.on connection).start context tracking thread terminal).map
        (Task.mapScope rename) := by
  -- whatever loads, asks for the scope; what counts, asks for none
  have load : terminal.loads = true → ∀ clauses finish,
      (query.on connection).startLoad clauses context renamed thread finish =
        ((query.on connection).startLoad clauses context tracking thread finish).map
          (Task.mapScope rename) := by
    intro loads clauses finish
    refine Query.build_rename (fun home scope => ?_) fun tracked => same (by simp [tracked, loads])
    cases clauses.compile context none none <;> rfl
  have count : ∀ finish, (query.on connection).startCount context finish =
      ((query.on connection).startCount context finish).map (Task.mapScope rename) := by
    intro finish
    unfold startCount
    cases homeOf (query.on connection).home with
    | error error => rfl
    | ok home => cases (query.on connection).clauses.compileCount context <;> rfl
  cases terminal with
  | list => exact load rfl _ _
  | first? => exact load rfl _ _
  | first text => exact load rfl _ _
  | count => exact count _
  | any => exact count _
  | page index size =>
      refine Query.build_rename (fun home scope => ?_) fun tracked =>
        same (by simp [tracked, Terminal.loads])
      cases (query.on connection).clauses.compilePage context index size <;> rfl

end Starting

namespace Flow

/-- Starts a query on a connection. -/
def start (connection : Connection) (thread : ThreadId) (query : Query) (context : Context)
    (terminal : Terminal) : Flow (Result Task) := do
  let scope ← if query.clauses.tracking && terminal.loads then active? else pure none
  return (query.on connection).start context (.inside (connection.place thread) scope) thread
    terminal

private theorem run_start {connection : Connection} {thread : ThreadId}
    (sound : seat.Sound (connection.place thread)) (query : Query) (context : Context)
    (terminal : Terminal) :
    (start connection thread query context terminal).run
        (Seat.handler (connection.place thread)) seat =
      (((query.on connection).start context seat.tracking thread terminal).map
        (Task.mapScope seat.gripOf), seat) := by
  have seen : ∀ scope, (Tracking.inside (connection.place thread) scope).active? thread
      connection.manager = scope := Tracking.active?_inside (connection.place thread)
  unfold start
  split
  · next tracked =>
      simp only [run_bind, run_active? sound, run_pure, Connection.thread_place,
        Connection.manager_place]
      rw [Query.start_rename context terminal fun _ => seen _]
  · next untracked =>
      simp only [run_bind, run_pure]
      rw [Query.start_rename context terminal fun tracked => absurd tracked untracked]

end Flow

/-! ## Calls -/

/-- What is called on a handle, and what is done with what it answered before.  A guard is the grip
of its scope. -/
inductive HandleCall where
  /-- Enters a level, without a guard. -/
  | enter
  /-- Releases a level. -/
  | release
  /-- Enters a level, and answers its guard. -/
  | openGuard
  | guardDepth (guard : Grip)
  | dropGuard (guard : Grip)
  | depth
  | isActive
  | snapshot (key : EntityKey)
  | isTracked (key : EntityKey)
  | addTracking (subject : Instance)
  | addTrackingAll (entity : String) (subjects : List Instance)
  | changeSet (subject : Instance)
  /-- Starts a query, and answers the task. -/
  | start (query : Query) (context : Context) (terminal : Terminal)
  | finish (task : Task)
  /-- Prepares an update, and answers it. -/
  | prepare (subject : Instance)
  | execute (prepared : PreparedUpdate)
  /-- Has the database do something else. -/
  | send (operation : Operation)

namespace HandleCall

/-- What a call answers. -/
def Reply : HandleCall → Type
  | enter | release | dropGuard _ => Unit
  | openGuard => Grip
  | guardDepth _ | depth => Nat
  | isActive | isTracked _ => Bool
  | snapshot _ => Option Snapshot
  | addTracking _ | addTrackingAll _ _ => Result Unit
  | changeSet _ => Result ChangeSet
  | start _ _ _ => Result Task
  | finish _ => Result Outcome
  | prepare _ => Result PreparedUpdate
  | execute _ => Result Nat
  | send _ => Result Answer

/-- A call, access by access. -/
def flow (connection : Connection) (thread : ThreadId) : (call : HandleCall) → Flow call.Reply
  | enter => Flow.enter
  | release => Flow.release
  | openGuard => Flow.openGuard
  | guardDepth guard => Flow.look guard Scope.depth
  | dropGuard guard => Flow.releaseAt guard
  | depth => Flow.depth
  | isActive => Flow.isActive
  | snapshot key => Flow.snapshot? key
  | isTracked key => Flow.isTracked key
  | addTracking subject => Flow.addTracking connection subject
  | addTrackingAll entity subjects => Flow.addTrackingAll connection entity subjects
  | changeSet subject => Flow.changeSet connection subject
  | start query context terminal => Flow.start connection thread query context terminal
  | finish task => Flow.finish task
  | prepare subject => Flow.prepareUpdate connection subject
  | execute prepared => Flow.execute prepared
  | send operation => Flow.perform (.send operation)

/-- A call in one go, on all scopes. -/
def perform (connection : Connection) (thread : ThreadId) :
    (call : HandleCall) → Seat δ → call.Reply × Seat δ
  | enter, seat =>
      let entered := seat.tracking.enter thread connection.manager
      ((), (seat.withTracking entered.2).find entered.1)
  | release, seat => seat.take ((), seat.tracking.release thread connection.manager)
  | openGuard, seat =>
      let opened := seat.tracking.openGuard thread connection.manager
      let after := (seat.withTracking opened.2).find opened.1.scope
      (after.gripOf opened.1.scope, after)
  | guardDepth guard, seat =>
      (seat.tracking.guardDepth ⟨connection.manager, seat.scopeOf guard⟩, seat)
  | dropGuard guard, seat =>
      seat.take ((), seat.tracking.dropGuard thread ⟨connection.manager, seat.scopeOf guard⟩)
  | depth, seat => (seat.tracking.depth thread connection.manager, seat)
  | isActive, seat => (seat.tracking.isActive thread connection.manager, seat)
  | snapshot key, seat => (seat.tracking.snapshot? thread connection.manager key, seat)
  | isTracked key, seat =>
      ((seat.tracking.snapshot? thread connection.manager key).isSome, seat)
  | addTracking subject, seat =>
      seat.settle (connection.addTracking seat.tracking thread subject)
  | addTrackingAll entity subjects, seat =>
      seat.take (connection.addTrackingAll seat.tracking thread entity subjects)
  | changeSet subject, seat => (connection.changeSet seat.tracking thread subject, seat)
  | start query context terminal, seat =>
      (((query.on connection).start context seat.tracking thread terminal).map
        (Task.mapScope seat.gripOf), seat)
  | finish task, seat => seat.inWorld (task.mapScope seat.scopeOf).run
  | prepare subject, seat =>
      ((connection.prepareUpdate seat.tracking thread subject).map
        (PreparedUpdate.mapScope seat.gripOf), seat)
  | execute prepared, seat => seat.inWorld (prepared.mapScope seat.scopeOf).execute
  | send operation, seat => seat.inWorld (sendOperation operation)

/-- A call that nobody interrupts is the same done access by access or in one go. -/
theorem run_flow {connection : Connection} {thread : ThreadId}
    (sound : seat.Sound (connection.place thread)) (call : HandleCall) :
    (call.flow connection thread).run (Seat.handler (connection.place thread)) seat =
      call.perform connection thread seat := by
  cases call with
  | enter => exact Flow.run_enter seat
  | release => exact Flow.run_release sound
  | openGuard => exact Flow.run_openGuard seat
  | guardDepth guard => exact Flow.run_look seat guard Scope.depth
  | dropGuard guard => exact Flow.run_releaseAt seat guard
  | depth => exact Flow.run_depth sound
  | isActive => exact Flow.run_isActive sound
  | snapshot key => exact Flow.run_snapshot? sound key
  | isTracked key => exact Flow.run_isTracked sound key
  | addTracking subject => exact Flow.run_addTracking sound subject
  | addTrackingAll entity subjects => exact Flow.run_addTrackingAll sound entity subjects
  | changeSet subject => exact Flow.run_changeSet sound subject
  | start query context terminal => exact Flow.run_start sound query context terminal
  | finish task => exact Flow.run_finish seat task
  | prepare subject => exact Flow.run_prepareUpdate sound subject
  | execute prepared => exact Flow.run_execute seat prepared
  | send operation => rfl

end HandleCall

end TrackedQuery
