import TrackedQuery.Tracking.Key

/-!
# Tracking scopes

A scope remembers the rows that instances were loaded from.  Scopes are entered and released in
levels, and belong to the thread that entered them: every manager has at most one scope on a thread.
When the last level of a scope is released, its snapshots are dropped.

A guard and an operation in flight keep the scope they were made in, which may be another one than
the thread has by the time they use it.  If the last level is released on the thread that is in the
scope, the thread forgets it, and what it enters next is a new scope.  On another thread there is
nothing to forget: the first thread stays in the scope, which is empty and at depth zero, and enters
the same one again.
-/

namespace TrackedQuery

/-- Who enters scopes: each database handle has a manager of its own. -/
abbrev ManagerId := Nat

/-- A thread of execution. -/
abbrev ThreadId := Nat

/-- Which of the scopes that were ever entered. -/
abbrev ScopeId := Nat

/-- The row of an instance at the time it was captured. -/
structure Snapshot where
  key : EntityKey
  record : Row

/-! ## One scope -/

/-- The levels of a scope, and what it captured. -/
structure Scope where
  depth : Nat
  snapshots : List Snapshot

namespace Scope

/-- A scope that was not entered yet. -/
def fresh : Scope := ⟨0, []⟩

/-- One more level. -/
def enter (scope : Scope) : Scope := { scope with depth := scope.depth + 1 }

/-- One level less.  Nothing is kept beyond the last level. -/
def release (scope : Scope) : Scope :=
  if scope.depth ≤ 1 then .fresh else { scope with depth := scope.depth - 1 }

/-- The snapshot of a key. -/
def snapshot? (scope : Scope) (key : EntityKey) : Option Snapshot :=
  scope.snapshots.find? fun snapshot => snapshot.key.foundUnder key

/-- Puts a snapshot in the place of an earlier one of the same key, or else at the end. -/
def insertSnapshot (snapshot : Snapshot) : List Snapshot → List Snapshot
  | [] => [snapshot]
  | first :: rest =>
      if first.key.foundUnder snapshot.key then snapshot :: rest
      else first :: insertSnapshot snapshot rest

/-- Captures the row of an instance. -/
def capture (scope : Scope) (snapshot : Snapshot) : Scope :=
  { scope with snapshots := insertSnapshot snapshot scope.snapshots }

/-- Replaces the row of a captured key; other keys stay uncaptured. -/
def refreshSnapshot (key : EntityKey) (record : Row) : List Snapshot → List Snapshot
  | [] => []
  | first :: rest =>
      if first.key.foundUnder key then { first with record := record } :: rest
      else first :: refreshSnapshot key record rest

/-- Replaces the row of a captured key. -/
def refresh (scope : Scope) (key : EntityKey) (record : Row) : Scope :=
  { scope with snapshots := refreshSnapshot key record scope.snapshots }

@[simp] theorem depth_enter (scope : Scope) : scope.enter.depth = scope.depth + 1 := rfl

@[simp] theorem snapshots_enter (scope : Scope) : scope.enter.snapshots = scope.snapshots := rfl

@[simp] theorem depth_release (scope : Scope) : scope.release.depth = scope.depth - 1 := by
  unfold release fresh
  split
  · show 0 = scope.depth - 1
    omega
  · rfl

theorem snapshots_release_of_last {scope : Scope} (last : scope.depth ≤ 1) :
    scope.release.snapshots = [] := by
  simp [release, fresh, last]

theorem snapshots_release_of_more {scope : Scope} (more : 1 < scope.depth) :
    scope.release.snapshots = scope.snapshots := by
  simp [release, Nat.not_le.2 more]

@[simp] theorem depth_capture (scope : Scope) (snapshot : Snapshot) :
    (scope.capture snapshot).depth = scope.depth := rfl

@[simp] theorem depth_refresh (scope : Scope) (key : EntityKey) (record : Row) :
    (scope.refresh key record).depth = scope.depth := rfl

end Scope

/-! ## All scopes -/

/-- The scope that a manager has on a thread. -/
structure Attachment where
  thread : ThreadId
  manager : ManagerId
  scope : ScopeId

/-- Every scope, and which of them the threads are in. -/
structure Tracking where
  /-- The scopes; a `ScopeId` is a position in this list. -/
  scopes : List Scope
  attachments : List Attachment

/-- Releases one level of the scope it was made in. -/
structure Guard where
  manager : ManagerId
  scope : ScopeId

namespace Tracking

/-- No scope was ever entered. -/
def empty : Tracking := ⟨[], []⟩

/-- A scope.  One that was never entered is fresh. -/
def scopeAt (tracking : Tracking) (id : ScopeId) : Scope := tracking.scopes[id]?.getD .fresh

/-- Changes a scope. -/
def modifyScope (tracking : Tracking) (id : ScopeId) (change : Scope → Scope) : Tracking :=
  { tracking with scopes := tracking.scopes.modify id change }

@[simp] theorem attachments_modifyScope (tracking : Tracking) (id : ScopeId)
    (change : Scope → Scope) :
    (tracking.modifyScope id change).attachments = tracking.attachments := rfl

theorem scopeAt_modifyScope_self {tracking : Tracking} {id : ScopeId}
    (entered : id < tracking.scopes.length) (change : Scope → Scope) :
    (tracking.modifyScope id change).scopeAt id = change (tracking.scopeAt id) := by
  simp [modifyScope, scopeAt, entered]

/-- Changing one scope leaves the others alone. -/
theorem scopeAt_modifyScope_of_ne (tracking : Tracking) {other id : ScopeId}
    (distinct : other ≠ id) (change : Scope → Scope) :
    (tracking.modifyScope id change).scopeAt other = tracking.scopeAt other := by
  simp [modifyScope, scopeAt, Ne.symm distinct]

/-- The scope that a manager has on a thread. -/
def current? (tracking : Tracking) (thread : ThreadId) (manager : ManagerId) : Option ScopeId :=
  (tracking.attachments.find? fun attachment =>
    attachment.thread == thread && attachment.manager == manager).map Attachment.scope

/-- The number of levels entered on a thread. -/
def depth (tracking : Tracking) (thread : ThreadId) (manager : ManagerId) : Nat :=
  match tracking.current? thread manager with
  | some scope => (tracking.scopeAt scope).depth
  | none => 0

/-- Whether a thread is in a scope. -/
def isActive (tracking : Tracking) (thread : ThreadId) (manager : ManagerId) : Bool :=
  tracking.depth thread manager > 0

/-- The scope that a thread is in. -/
def active? (tracking : Tracking) (thread : ThreadId) (manager : ManagerId) : Option ScopeId :=
  (tracking.current? thread manager).filter fun scope => (tracking.scopeAt scope).depth > 0

/-- The scope that a thread is in, on behalf of the named operation. -/
def requireActive (tracking : Tracking) (thread : ThreadId) (manager : ManagerId)
    (operation : String) : Result ScopeId :=
  match tracking.active? thread manager with
  | some scope => .ok scope
  | none => fail (.trackingNotActive operation)

/-- Enters one level of the scope that the manager has on the thread, or of a new scope. -/
def enter (tracking : Tracking) (thread : ThreadId) (manager : ManagerId) : ScopeId × Tracking :=
  match tracking.current? thread manager with
  | some scope => (scope, tracking.modifyScope scope Scope.enter)
  | none =>
      let scope := tracking.scopes.length
      (scope,
        { scopes := tracking.scopes ++ [Scope.fresh.enter]
          attachments := ⟨thread, manager, scope⟩ :: tracking.attachments })

/-- A thread forgets a scope that it is in. -/
def detach (tracking : Tracking) (thread : ThreadId) (manager : ManagerId) (scope : ScopeId) :
    Tracking :=
  { tracking with
    attachments := tracking.attachments.filter fun attachment =>
      !(attachment.thread == thread && attachment.manager == manager && attachment.scope == scope) }

@[simp] theorem scopeAt_detach (tracking : Tracking) (thread : ThreadId) (manager : ManagerId)
    (scope id : ScopeId) :
    (tracking.detach thread manager scope).scopeAt id = tracking.scopeAt id := rfl

/-- Releases one level of a scope.  A scope that was released completely stays as it is. -/
def releaseScope (tracking : Tracking) (thread : ThreadId) (manager : ManagerId) (scope : ScopeId) :
    Tracking :=
  match (tracking.scopeAt scope).depth with
  | 0 => tracking
  | 1 => (tracking.modifyScope scope Scope.release).detach thread manager scope
  | _ + 2 => tracking.modifyScope scope Scope.release

/-- Releases one level of the scope that the manager has on the thread. -/
def release (tracking : Tracking) (thread : ThreadId) (manager : ManagerId) : Tracking :=
  match tracking.current? thread manager with
  | some scope => tracking.releaseScope thread manager scope
  | none => tracking

/-- Enters a level and answers the guard that releases it. -/
def openGuard (tracking : Tracking) (thread : ThreadId) (manager : ManagerId) : Guard × Tracking :=
  let (scope, tracking) := tracking.enter thread manager
  (⟨manager, scope⟩, tracking)

/-- Releases the level of a guard, on whichever thread. -/
def dropGuard (tracking : Tracking) (thread : ThreadId) (guard : Guard) : Tracking :=
  tracking.releaseScope thread guard.manager guard.scope

/-- The depth of the scope that a guard was made in. -/
def guardDepth (tracking : Tracking) (guard : Guard) : Nat := (tracking.scopeAt guard.scope).depth

/-! ## Snapshots -/

/-- Captures the row of an instance in a scope, which may have been released in the meantime. -/
def capture (tracking : Tracking) (scope : ScopeId) (key : EntityKey) (record : Row)
    (operation : String) : Result Tracking :=
  if (tracking.scopeAt scope).depth = 0 then fail (.trackingNotActive operation)
  else .ok (tracking.modifyScope scope (·.capture ⟨key, record⟩))

/-- Replaces the row of a key that a scope has captured. -/
def refresh (tracking : Tracking) (scope : ScopeId) (key : EntityKey) (record : Row) : Tracking :=
  tracking.modifyScope scope (·.refresh key record)

/-- The snapshot of a key in the scope of a thread. -/
def snapshot? (tracking : Tracking) (thread : ThreadId) (manager : ManagerId) (key : EntityKey) :
    Option Snapshot :=
  (tracking.current? thread manager).bind fun scope => (tracking.scopeAt scope).snapshot? key

end Tracking

end TrackedQuery
