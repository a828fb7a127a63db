import TrackedQuery.Proofs.Result
import TrackedQuery.Proofs.Tracking.Flow

/-!
# Flows in a world

A flow runs in a `Seat`: the world that it shares with others, and the scopes that it found there
itself.  A flow that nobody interrupts does what the operation on the whole `Tracking` does: there
is one equation for each operation (`Flow.run_enter`, `Flow.run_releaseAt`, ..., `Flow.run_finish`).

## Strategy

`Seat.Sound` says that a flow found the scope it is in, if it is in one.  The grip of this scope
then leads back to it (`Seat.Sound.scopeOf_current`), which is what the equations of operations on
the current scope rest on.  Every access keeps this (`Seat.Sound.perform`).
-/

namespace TrackedQuery

variable {δ α : Type}

/-! ## Seats -/

/-- The world, and the scopes that a flow found in it. -/
structure Seat (δ : Type) where
  found : List ScopeId
  world : World δ

namespace Seat

/-- Nothing was found, and nobody entered a scope. -/
def start (database : Database δ) (state : δ) : Seat δ := ⟨[], ⟨database, state, .empty⟩⟩

/-- Every scope, and what the threads are attached to. -/
def tracking (seat : Seat δ) : Tracking := seat.world.tracking

/-- Goes on with other scopes. -/
def withTracking (seat : Seat δ) (tracking : Tracking) : Seat δ :=
  { seat with world := { seat.world with tracking := tracking } }

@[simp] theorem tracking_withTracking (seat : Seat δ) (tracking : Tracking) :
    (seat.withTracking tracking).tracking = tracking := rfl

@[simp] theorem found_withTracking (seat : Seat δ) (tracking : Tracking) :
    (seat.withTracking tracking).found = seat.found := rfl

@[simp] theorem withTracking_tracking (seat : Seat δ) :
    seat.withTracking seat.tracking = seat := rfl

@[simp] theorem withTracking_withTracking (seat : Seat δ) (first second : Tracking) :
    (seat.withTracking first).withTracking second = seat.withTracking second := rfl

/-- The scope that a grip names.  A grip of nothing names a scope that was never entered. -/
def scopeOf (seat : Seat δ) (grip : Grip) : ScopeId :=
  seat.found[grip]?.getD seat.tracking.scopes.length

/-- The grip of a scope. -/
def gripOf (seat : Seat δ) (scope : ScopeId) : Grip := seat.found.idxOf scope

/-- Finds a scope, for the first time or again. -/
def find (seat : Seat δ) (scope : ScopeId) : Seat δ :=
  if scope ∈ seat.found then seat else { seat with found := seat.found ++ [scope] }

/-- A thread is attached to a fresh scope. -/
def attach (seat : Seat δ) (place : Place) : Seat δ :=
  { (seat.withTracking
      { scopes := seat.tracking.scopes ++ [.fresh]
        attachments := ⟨place.thread, place.manager, seat.tracking.scopes.length⟩ ::
          seat.tracking.attachments }) with
    found := seat.found ++ [seat.tracking.scopes.length] }

/-- The scope that the thread is attached to. -/
abbrev current? (seat : Seat δ) (place : Place) : Option ScopeId :=
  seat.tracking.current? place.thread place.manager

/-- Takes over the scopes that a call leaves behind. -/
def take (seat : Seat δ) (called : α × Tracking) : α × Seat δ :=
  (called.1, seat.withTracking called.2)

/-- Takes over the scopes that a call answers, unless it fails. -/
def settle (seat : Seat δ) : Result Tracking → Result Unit × Seat δ
  | .ok tracking => (.ok (), seat.withTracking tracking)
  | .error error => (.error error, seat)

/-- Takes over the world that a call leaves behind. -/
def inWorld (seat : Seat δ) (action : WorldM δ α) : α × Seat δ :=
  ((action seat.world).1, { seat with world := (action seat.world).2 })

private theorem scopeOf_gripOf {seat : Seat δ} {scope : ScopeId} (found : scope ∈ seat.found) :
    seat.scopeOf (seat.gripOf scope) = scope := by
  have here := List.idxOf_lt_length_of_mem found
  simp [scopeOf, gripOf, List.getElem?_eq_getElem here]

private theorem mem_find (seat : Seat δ) (scope : ScopeId) : scope ∈ (seat.find scope).found := by
  unfold find
  split
  · assumption
  · exact List.mem_append_right _ (List.mem_singleton_self scope)

private theorem withTracking_find (seat : Seat δ) (scope : ScopeId) (tracking : Tracking) :
    (seat.find scope).withTracking tracking = (seat.withTracking tracking).find scope := by
  unfold find
  rw [found_withTracking]
  split <;> rfl

theorem world_find (seat : Seat δ) (scope : ScopeId) : (seat.find scope).world = seat.world := by
  unfold find
  split <;> rfl

@[simp] theorem tracking_find (seat : Seat δ) (scope : ScopeId) :
    (seat.find scope).tracking = seat.tracking :=
  congrArg World.tracking (seat.world_find scope)

/-- Answers an access at a place. -/
def perform {ρ : Type} (place : Place) : Access ρ → Seat δ → ρ × Seat δ
  | .lookUp, seat =>
      let looked := seat.tracking.lookUp place.thread place.manager
      let after := (seat.withTracking looked.2).find looked.1
      (after.gripOf looked.1, after)
  | .current, seat => ((seat.current? place).map seat.gripOf, seat)
  | .locked grip change, seat =>
      let changed := change (seat.tracking.scopeAt (seat.scopeOf grip))
      (changed.1,
        seat.withTracking (seat.tracking.modifyScope (seat.scopeOf grip) fun _ => changed.2))
  | .forget grip, seat =>
      ((),
        seat.withTracking
          (seat.tracking.detach place.thread place.manager (seat.scopeOf grip)))
  | .send operation, seat =>
      ((seat.world.send operation).1, { seat with world := (seat.world.send operation).2 })

/-- Flows run in seats. -/
def handler (place : Place) : Handler (Seat δ) := ⟨perform place⟩

/-- The scope that a flow is in is one that it found. -/
structure Sound (place : Place) (seat : Seat δ) : Prop where
  nodup : seat.found.Nodup
  known : ∀ scope ∈ seat.found, scope < seat.tracking.scopes.length
  /-- The thread is attached to the current scope only. -/
  attached : ∀ scope, ⟨place.thread, place.manager, scope⟩ ∈ seat.tracking.attachments →
    seat.current? place = some scope ∧ scope ∈ seat.found

end Seat

/-! ## What an access changes -/

namespace Tracking

variable {tracking : Tracking} {thread : ThreadId} {manager : ManagerId} {scope : ScopeId}

theorem modifyScope_self (tracking : Tracking) (scope : ScopeId) (change : Scope → Scope) :
    (tracking.modifyScope scope fun _ => change (tracking.scopeAt scope)) =
      tracking.modifyScope scope change := by
  unfold modifyScope
  congr 1
  refine List.ext_getElem? fun index => ?_
  rw [List.getElem?_modify, List.getElem?_modify]
  by_cases here : scope = index
  · subst here
    cases stored : tracking.scopes[scope]? with
    | none => rfl
    | some found => simp [scopeAt, stored]
  · simp [here]

@[simp] theorem modifyScope_scopeAt (tracking : Tracking) (scope : ScopeId) :
    (tracking.modifyScope scope fun _ => tracking.scopeAt scope) = tracking := by
  rw [modifyScope_self tracking scope fun stored => stored, modifyScope]
  exact congrArg (Tracking.mk · tracking.attachments) (List.modify_id scope tracking.scopes)

/-- A thread that is attached to one scope of the manager is in that scope. -/
theorem current?_of_single (here : ⟨thread, manager, scope⟩ ∈ tracking.attachments)
    (single : ∀ other, ⟨thread, manager, other⟩ ∈ tracking.attachments → other = scope) :
    tracking.current? thread manager = some scope := by
  cases current : tracking.current? thread manager with
  | none => exact absurd ⟨rfl, rfl⟩ (current?_eq_none_iff.mp current _ here)
  | some found => exact congrArg some (single found (mem_of_current? current))

end Tracking

variable {place : Place} {seat : Seat δ}

namespace Seat.Sound

theorem start (place : Place) (database : Database δ) (state : δ) :
    (Seat.start database state).Sound place :=
  ⟨List.nodup_nil, fun _ mem => absurd mem List.not_mem_nil,
    fun _ here => absurd here List.not_mem_nil⟩

theorem current_mem (sound : seat.Sound place) {scope : ScopeId}
    (current : seat.current? place = some scope) : scope ∈ seat.found :=
  (sound.attached scope (Tracking.mem_of_current? current)).2

/-- The grip of the current scope leads to it. -/
theorem scopeOf_current (sound : seat.Sound place) {scope : ScopeId}
    (current : seat.current? place = some scope) : seat.scopeOf (seat.gripOf scope) = scope :=
  scopeOf_gripOf (sound.current_mem current)

private theorem scopeOf_active (sound : seat.Sound place) {scope : ScopeId}
    (active : seat.tracking.active? place.thread place.manager = some scope) :
    seat.scopeOf (seat.gripOf scope) = scope :=
  sound.scopeOf_current (Option.filter_eq_some_iff.mp active).1

private theorem scopeOf_required (sound : seat.Sound place) {operation : String} {scope : ScopeId}
    (required : seat.tracking.requireActive place.thread place.manager operation = .ok scope) :
    seat.scopeOf (seat.gripOf scope) = scope := by
  unfold Tracking.requireActive at required
  cases active : seat.tracking.active? place.thread place.manager with
  | none =>
      rw [active] at required
      cases required
  | some found =>
      rw [active] at required
      cases required
      exact sound.scopeOf_active active

/-- The scopes that a flow found stay known, whatever is done to them. -/
theorem withTracking (sound : seat.Sound place) {tracking : Tracking}
    (length : tracking.scopes.length = seat.tracking.scopes.length)
    (attachments : tracking.attachments = seat.tracking.attachments) :
    (seat.withTracking tracking).Sound place where
  nodup := sound.nodup
  known scope found := length ▸ sound.known scope found
  attached := by
    have same : (seat.withTracking tracking).current? place = seat.current? place := by
      simp only [current?, Tracking.current?, tracking_withTracking, attachments]
    rw [same, tracking_withTracking, attachments]
    exact sound.attached

/-- The next scope is not among those that were found. -/
theorem length_not_mem (sound : seat.Sound place) : seat.tracking.scopes.length ∉ seat.found :=
  fun found => Nat.lt_irrefl _ (sound.known _ found)

theorem gripOf_of_getElem? (sound : seat.Sound place) {grip : Grip} {scope : ScopeId}
    (here : seat.found[grip]? = some scope) : seat.gripOf scope = grip := by
  obtain ⟨inside, rfl⟩ := List.getElem?_eq_some_iff.mp here
  exact List.Nodup.idxOf_getElem sound.nodup grip inside

/-- A grip leads to what was found under it, and back. -/
theorem gripOf_scopeOf (sound : seat.Sound place) {grip : Grip}
    (named : seat.scopeOf grip ∈ seat.found) : seat.gripOf (seat.scopeOf grip) = grip := by
  unfold scopeOf at named ⊢
  cases here : seat.found[grip]? with
  | none =>
      rw [here] at named
      exact absurd named sound.length_not_mem
  | some scope => exact sound.gripOf_of_getElem? here

theorem gripOf_attach (sound : seat.Sound place) :
    (seat.attach place).gripOf seat.tracking.scopes.length = seat.found.length := by
  show (seat.found ++ [seat.tracking.scopes.length]).idxOf seat.tracking.scopes.length = _
  simp [List.idxOf_append, sound.length_not_mem]

theorem lookUp_of_current (sound : seat.Sound place) {scope : ScopeId}
    (current : seat.current? place = some scope) :
    seat.perform place .lookUp = (seat.gripOf scope, seat) := by
  have looked : seat.tracking.lookUp place.thread place.manager = (scope, seat.tracking) := by
    rw [Tracking.lookUp, show seat.tracking.current? place.thread place.manager = _ from current]
  simp [Seat.perform, looked, find, sound.current_mem current]

theorem lookUp_of_vacant (sound : seat.Sound place) (vacant : seat.current? place = none) :
    seat.perform place .lookUp = (seat.found.length, seat.attach place) := by
  have looked : seat.tracking.lookUp place.thread place.manager =
      (seat.tracking.scopes.length, (seat.attach place).tracking) := by
    rw [Tracking.lookUp, show seat.tracking.current? place.thread place.manager = _ from vacant]
    rfl
  have found : (seat.withTracking (seat.attach place).tracking).find seat.tracking.scopes.length =
      seat.attach place := if_neg sound.length_not_mem
  simp only [Seat.perform, looked, found, sound.gripOf_attach]

/-- Nobody is in a fresh scope. -/
theorem attach (sound : seat.Sound place) (vacant : seat.current? place = none) :
    (seat.attach place).Sound place := by
  have absent := Tracking.current?_eq_none_iff.mp vacant
  -- the scope that is attached is the only one of its thread and manager
  have single : ∀ scope, ⟨place.thread, place.manager, scope⟩ ∈
      (seat.attach place).tracking.attachments → scope = seat.tracking.scopes.length := by
    intro scope here
    rcases List.mem_cons.mp here with same | here
    · exact (Attachment.mk.inj same).2.2
    · exact absurd ⟨rfl, rfl⟩ (absent _ here)
  constructor
  · refine List.nodup_append.mpr ⟨sound.nodup, List.pairwise_singleton _ _, ?_⟩
    rintro scope found other new rfl
    rw [List.mem_singleton.mp new] at found
    exact sound.length_not_mem found
  · intro scope found
    show scope < (seat.tracking.scopes ++ [Scope.fresh]).length
    rw [List.length_append, List.length_singleton]
    rcases List.mem_append.mp found with found | found
    · exact Nat.lt_succ_of_lt (sound.known scope found)
    · rw [List.mem_singleton.mp found]
      exact Nat.lt_succ_self _
  · intro scope here
    rw [single scope here]
    exact ⟨Tracking.current?_of_single List.mem_cons_self single, by simp [Seat.attach]⟩

theorem forget (sound : seat.Sound place) (grip : Grip) :
    (seat.perform place (.forget grip)).2.Sound place where
  nodup := sound.nodup
  known := sound.known
  attached scope here := by
    refine ⟨Tracking.current?_of_single here fun other mem => ?_,
      (sound.attached scope (Tracking.mem_detach.mp here).1).2⟩
    have first := (sound.attached scope (Tracking.mem_detach.mp here).1).1
    have second := (sound.attached other (Tracking.mem_detach.mp mem).1).1
    exact Option.some.inj (second.symm.trans first)

/-- Every access keeps what is known of a seat. -/
theorem perform {ρ : Type} (sound : seat.Sound place) (access : Access ρ) :
    (seat.perform place access).2.Sound place := by
  cases access with
  | lookUp =>
      cases current : seat.current? place with
      | some scope => rwa [sound.lookUp_of_current current]
      | none =>
          rw [sound.lookUp_of_vacant current]
          exact sound.attach current
  | current => exact sound
  | locked grip change =>
      exact sound.withTracking (Tracking.length_modifyScope _ _ _) rfl
  | forget grip => exact sound.forget grip
  | send operation => exact ⟨sound.nodup, sound.known, sound.attached⟩

end Seat.Sound

/-! ## Running operations in a seat -/

/-- Names the scope of an update in another way. -/
def PreparedUpdate.mapScope (rename : ScopeId → ScopeId) (prepared : PreparedUpdate) :
    PreparedUpdate :=
  { prepared with scope := prepared.scope.map rename }

/-- Names the scope of a task in another way. -/
def Task.mapScope (rename : ScopeId → ScopeId) : Task → Task
  | .load schema type plan scope finish => .load schema type plan (scope.map rename) finish
  | .page schema type plans scope => .page schema type plans (scope.map rename)
  | .count plan finish => .count plan finish
  | .rows plan => .rows plan
  | .widen schema type plan layout => .widen schema type plan layout

namespace Seat

/-- A grip names the same scope as long as no scope is added. -/
theorem scopeOf_withTracking {tracking : Tracking}
    (length : tracking.scopes.length = seat.tracking.scopes.length) (grip : Grip) :
    (seat.withTracking tracking).scopeOf grip = seat.scopeOf grip := by
  simp only [scopeOf, found_withTracking, tracking_withTracking, length]

private theorem scopeOf_capture {tracking : Tracking} {scope : ScopeId} {key : EntityKey}
    {record : Row} {operation : String}
    (captured : seat.tracking.capture scope key record operation = .ok tracking) (grip : Grip) :
    (seat.withTracking tracking).scopeOf grip = seat.scopeOf grip := by
  rw [(Tracking.capture_eq_ok captured).2]
  exact scopeOf_withTracking (Tracking.length_modifyScope _ _ _) grip

theorem inWorld_bind {β : Type} (seat : Seat δ) (action : WorldM δ α) (next : α → WorldM δ β) :
    seat.inWorld (action >>= next) =
      (seat.inWorld action).2.inWorld (next (seat.inWorld action).1) := rfl

private theorem scopeOf_captureRow {tracking : Tracking} {entity : Entity} {scope : Option ScopeId}
    {row : Row} (captured : captureRow entity scope row seat.tracking = .ok tracking) :
    (seat.withTracking tracking).scopeOf = seat.scopeOf := by
  funext grip
  cases scope with
  | none =>
      cases captured
      rfl
  | some scope =>
      obtain ⟨key, -, captured⟩ := Result.bind_eq_ok.mp captured
      exact scopeOf_capture captured grip

end Seat

namespace Flow

variable (seat : Seat δ) (grip : Grip)

theorem run_access (access : Access α) :
    (perform access).run (Seat.handler place) seat = seat.perform place access := rfl

@[simp] theorem run_current :
    (perform .current).run (Seat.handler place) seat =
      ((seat.current? place).map seat.gripOf, seat) := rfl

@[simp] theorem run_send (operation : Operation) :
    (perform (.send operation)).run (Seat.handler place) seat =
      seat.inWorld (sendOperation operation) := rfl

@[simp] theorem run_look (read : Scope → α) :
    (look grip read).run (Seat.handler place) seat =
      (read (seat.tracking.scopeAt (seat.scopeOf grip)), seat) := by
  simp [look, run_access, Seat.perform]

@[simp] theorem run_modify (change : Scope → Scope) :
    (modify grip change).run (Seat.handler place) seat =
      ((), seat.withTracking (seat.tracking.modifyScope (seat.scopeOf grip) change)) := by
  simp [modify, run_access, Seat.perform, Tracking.modifyScope_self]

theorem run_captureAt (key : EntityKey) (record : Row) (operation : String) :
    (captureAt grip key record operation).run (Seat.handler place) seat =
      seat.settle (seat.tracking.capture (seat.scopeOf grip) key record operation) := by
  simp only [captureAt, run_access, Seat.perform, Tracking.capture]
  by_cases closed : (seat.tracking.scopeAt (seat.scopeOf grip)).depth = 0
  · simp [closed, Seat.settle, fail]
  · simp only [closed, if_false, Seat.settle]
    rw [Tracking.modifyScope_self _ _ (·.capture ⟨key, record⟩)]

theorem run_releaseAt :
    (releaseAt grip).run (Seat.handler place) seat =
      ((), seat.withTracking
        (seat.tracking.releaseScope place.thread place.manager (seat.scopeOf grip))) := by
  -- giving up a level of a scope that has none leaves it as it is
  have lowered : (seat.tracking.modifyScope (seat.scopeOf grip) fun _ =>
      if (seat.tracking.scopeAt (seat.scopeOf grip)).depth = 0 then
        seat.tracking.scopeAt (seat.scopeOf grip)
      else (seat.tracking.scopeAt (seat.scopeOf grip)).release) =
        seat.tracking.lower (seat.scopeOf grip) := by
    unfold Tracking.lower
    split
    · exact Tracking.modifyScope_scopeAt _ _
    · exact Tracking.modifyScope_self _ _ Scope.release
  have same : (seat.withTracking (seat.tracking.lower (seat.scopeOf grip))).scopeOf grip =
      seat.scopeOf grip := Seat.scopeOf_withTracking (Tracking.length_lower _ _) grip
  simp only [releaseAt, run_bind, run_access, Seat.perform, lowered,
    Tracking.releaseScope_eq]
  by_cases last : (seat.tracking.scopeAt (seat.scopeOf grip)).depth = 1
  · simp [last, run_access, Seat.perform, same]
  · simp [last]

theorem run_openGuard :
    openGuard.run (Seat.handler place) seat =
      let entered := seat.tracking.enter place.thread place.manager
      let after := (seat.withTracking entered.2).find entered.1
      (after.gripOf entered.1, after) := by
  simp only [openGuard, run_bind, run_modify, run_pure, run_access, Seat.perform]
  rw [Seat.scopeOf_gripOf (Seat.mem_find _ _), Seat.tracking_find, Seat.withTracking_find,
    Tracking.enter_eq]
  simp only [Seat.withTracking_withTracking, Seat.tracking_withTracking]
  rw [← Seat.withTracking_find, ← Seat.withTracking_find]
  rfl

theorem run_enter :
    enter.run (Seat.handler place) seat =
      let entered := seat.tracking.enter place.thread place.manager
      ((), (seat.withTracking entered.2).find entered.1) := by
  simp only [enter, run_bind, run_openGuard, run_pure]

section Current

variable {seat} (sound : seat.Sound place)
include sound

theorem run_depth :
    depth.run (Seat.handler place) seat =
      (seat.tracking.depth place.thread place.manager, seat) := by
  cases current : seat.current? place with
  | none => simp [depth, Tracking.depth, current]
  | some scope => simp [depth, Tracking.depth, current, sound.scopeOf_current current]

theorem run_isActive :
    isActive.run (Seat.handler place) seat =
      (seat.tracking.isActive place.thread place.manager, seat) := by
  simp only [isActive, run_bind, run_depth sound, run_pure, Tracking.isActive]

theorem run_active? :
    active?.run (Seat.handler place) seat =
      ((seat.tracking.active? place.thread place.manager).map seat.gripOf, seat) := by
  cases current : seat.current? place with
  | none => simp [active?, Tracking.active?, current]
  | some scope =>
      by_cases opened : (seat.tracking.scopeAt scope).depth > 0
      · simp [active?, Tracking.active?, current, sound.scopeOf_current current,
          Option.filter_some, opened]
      · simp [active?, Tracking.active?, current, sound.scopeOf_current current,
          Option.filter_some, opened]

private theorem run_requireActive (operation : String) :
    (requireActive operation).run (Seat.handler place) seat =
      ((seat.tracking.requireActive place.thread place.manager operation).map seat.gripOf,
        seat) := by
  simp only [requireActive, run_bind, run_active? sound, Tracking.requireActive]
  cases seat.tracking.active? place.thread place.manager with
  | none => rfl
  | some scope => rfl

theorem run_snapshot? (key : EntityKey) :
    (snapshot? key).run (Seat.handler place) seat =
      (seat.tracking.snapshot? place.thread place.manager key, seat) := by
  cases current : seat.current? place with
  | none => simp [snapshot?, Tracking.snapshot?, current]
  | some scope => simp [snapshot?, Tracking.snapshot?, current, sound.scopeOf_current current]

theorem run_isTracked (key : EntityKey) :
    (isTracked key).run (Seat.handler place) seat =
      ((seat.tracking.snapshot? place.thread place.manager key).isSome, seat) := by
  simp only [isTracked, run_bind, run_snapshot? sound, run_pure]

theorem run_release :
    release.run (Seat.handler place) seat =
      ((), seat.withTracking (seat.tracking.release place.thread place.manager)) := by
  cases current : seat.current? place with
  | none => simp [release, Tracking.release, current]
  | some scope =>
      simp [release, Tracking.release, current, run_releaseAt, sound.scopeOf_current current]

end Current

/-! ### Instances -/

private theorem run_captureEach (entity : Entity) (subjects : List Instance) :
    (captureEach entity grip subjects).run (Seat.handler place) seat =
      seat.take (Connection.captureEach entity (seat.scopeOf grip) seat.tracking subjects) := by
  induction subjects generalizing seat with
  | nil => rfl
  | cons subject rest ih =>
      unfold captureEach Connection.captureEach
      cases EntityKey.ofRecord entity subject.record with
      | error error => rfl
      | ok key =>
          simp only [run_bind, run_captureAt]
          -- the first capture that is refused ends both runs, with what was captured so far
          cases captured : seat.tracking.capture (seat.scopeOf grip) key subject.record
            "add_tracking" with
          | error error =>
              simp only [Seat.settle, run_pure, bind, Except.bind, captured]
              rfl
          | ok tracking =>
              simp only [Seat.settle, ih, bind, Except.bind, captured,
                Seat.scopeOf_capture captured]
              rfl

section Instances

variable {seat} {connection : Connection} {thread : ThreadId}
  (sound : seat.Sound (connection.place thread))
include sound

theorem run_addTracking (subject : Instance) :
    (addTracking connection subject).run (Seat.handler (connection.place thread)) seat =
      seat.settle (connection.addTracking seat.tracking thread subject) := by
  unfold addTracking
  cases resolved : connection.schema.resolve subject.entity with
  | error error => simp [Connection.addTracking, resolved, bind, Except.bind, Seat.settle]
  | ok entity =>
      cases keyed : EntityKey.ofRecord entity subject.record with
      | error error =>
          simp [Connection.addTracking, resolved, keyed, bind, Except.bind, Seat.settle]
      | ok key =>
          -- the key is read before the scope is asked for
          have ready : connection.addTracking seat.tracking thread subject =
              (seat.tracking.requireActive thread connection.manager "add_tracking").bind
                (seat.tracking.capture · key subject.record "add_tracking") := by
            simp [Connection.addTracking, resolved, keyed, bind, Except.bind]
          simp only [ready, keyed, run_bind, run_requireActive sound, Connection.thread_place,
            Connection.manager_place]
          cases active : seat.tracking.requireActive thread connection.manager "add_tracking" with
          | error error => rfl
          | ok scope =>
              simp only [Except.map, Except.bind, run_captureAt, sound.scopeOf_required active]

theorem run_addTrackingAll (entity : String) (subjects : List Instance) :
    (addTrackingAll connection entity subjects).run (Seat.handler (connection.place thread)) seat =
      seat.take (connection.addTrackingAll seat.tracking thread entity subjects) := by
  simp only [addTrackingAll, run_bind, run_requireActive sound, Connection.thread_place,
    Connection.manager_place]
  cases active : seat.tracking.requireActive thread connection.manager "add_tracking" with
  | error error =>
      simp [Connection.addTrackingAll, active, bind, Except.bind, Except.map, Seat.take]
  | ok scope =>
      cases resolved : connection.schema.resolve entity with
      | error error =>
          simp [Connection.addTrackingAll, active, resolved, bind, Except.bind, Except.map,
            Seat.take]
      | ok entity =>
          simp [Connection.addTrackingAll, active, resolved, bind, Except.bind, Except.map,
            pure, Except.pure, run_captureEach, sound.scopeOf_required active]

theorem run_changeSet (subject : Instance) :
    (changeSet connection subject).run (Seat.handler (connection.place thread)) seat =
      (connection.changeSet seat.tracking thread subject, seat) := by
  unfold changeSet
  cases resolved : connection.schema.resolve subject.entity with
  | error error => simp [Connection.changeSet, resolved, bind, Except.bind]
  | ok entity =>
      cases keyed : EntityKey.ofRecord entity subject.record with
      | error error => simp [Connection.changeSet, resolved, keyed, bind, Except.bind]
      | ok key =>
          -- without a scope nothing is known of the key
          have ready : connection.changeSet seat.tracking thread subject =
              ChangeSet.compute entity subject.record
                ((seat.tracking.active? thread connection.manager).bind fun scope =>
                  ((seat.tracking.scopeAt scope).snapshot? key).map Snapshot.record) := by
            simp [Connection.changeSet, resolved, keyed, bind, Except.bind]
          simp only [ready, keyed, run_bind, run_active? sound, Connection.thread_place,
            Connection.manager_place]
          cases active : seat.tracking.active? thread connection.manager with
          | none => rfl
          | some scope => simp [sound.scopeOf_active active]

theorem run_prepareUpdate (subject : Instance) :
    (prepareUpdate connection subject).run (Seat.handler (connection.place thread)) seat =
      ((connection.prepareUpdate seat.tracking thread subject).map
        (PreparedUpdate.mapScope seat.gripOf), seat) := by
  unfold prepareUpdate
  cases resolved : connection.schema.resolve subject.entity with
  | error error => simp [Connection.prepareUpdate, resolved, bind, Except.bind, Except.map]
  | ok entity =>
      simp only [run_bind, run_changeSet sound]
      cases changed : connection.changeSet seat.tracking thread subject with
      | error error =>
          simp [Connection.prepareUpdate, resolved, changed, bind, Except.bind, Except.map]
      | ok changes =>
          -- the scope is noted in an update that was computed against a snapshot
          have ready : connection.prepareUpdate seat.tracking thread subject = .ok
              { key := changes.key
                record := subject.record
                scope :=
                  if changes.mode = .diff then seat.tracking.active? thread connection.manager
                  else none
                update :=
                  if changes.changes.isEmpty then none else some (changes.toUpdate entity) } := by
            cases mode : changes.mode <;>
              simp [Connection.prepareUpdate, resolved, changed, mode, bind, Except.bind, pure,
                Except.pure]
          cases mode : changes.mode with
          | full => simp [ready, mode, Except.map, PreparedUpdate.mapScope]
          | diff => simp [ready, mode, Except.map, PreparedUpdate.mapScope, run_active? sound]

end Instances

theorem run_execute (prepared : PreparedUpdate) :
    (execute prepared).run (Seat.handler place) seat =
      seat.inWorld (prepared.mapScope seat.scopeOf).execute := by
  unfold execute PreparedUpdate.execute PreparedUpdate.mapScope
  cases prepared.update with
  | none => rfl
  | some update =>
      simp only [run_bind, run_send, Seat.inWorld_bind]
      cases (seat.inWorld (sendOperation (.update update))).1 with
      | error error => rfl
      | ok answer =>
          -- the snapshot is refreshed only in the scope that was noted
          cases prepared.scope with
          | none => rfl
          | some grip =>
              simp only [run_bind, run_modify, run_pure]
              rfl

/-! ### Queries -/

theorem run_fetchRows (plan : Plan) :
    (fetchRows plan).run (Seat.handler place) seat = seat.inWorld (TrackedQuery.fetchRows plan) :=
  rfl

theorem run_fetchCount (plan : Plan) :
    (fetchCount plan).run (Seat.handler place) seat =
      seat.inWorld (TrackedQuery.fetchCount plan) := rfl

private theorem run_captureRow (entity : Entity) (scope : Option Grip) (row : Row) :
    (captureRow entity scope row).run (Seat.handler place) seat =
      seat.settle
        (TrackedQuery.captureRow entity (scope.map seat.scopeOf) row seat.tracking) := by
  cases scope with
  | none => rfl
  | some grip =>
      unfold captureRow
      cases keyed : EntityKey.ofRecord entity row with
      | error error =>
          simp [TrackedQuery.captureRow, keyed, bind, Except.bind, Seat.settle]
      | ok key =>
          simp [TrackedQuery.captureRow, keyed, bind, Except.bind, run_captureAt]

private theorem run_loadEach (entity : Entity) (type : EntityType) (scope : Option Grip)
    (rows : List Row) :
    (loadEach entity type scope rows).run (Seat.handler place) seat =
      seat.take
        (TrackedQuery.loadEach entity type (scope.map seat.scopeOf) seat.tracking rows) := by
  induction rows generalizing seat with
  | nil => rfl
  | cons row rest ih =>
      unfold loadEach TrackedQuery.loadEach
      by_cases wide : row.length = entity.columns.length
      · simp only [wide, if_true, run_bind, run_captureRow]
        -- a row is captured before it is read, so it stays captured if reading fails
        cases captured : TrackedQuery.captureRow entity (scope.map seat.scopeOf) row
          seat.tracking with
        | error error => rfl
        | ok tracking =>
            cases read : type.load row with
            | error error => rfl
            | ok loaded =>
                simp only [Seat.settle, run_bind, ih, run_pure,
                  Seat.scopeOf_captureRow captured]
                rfl
      · simp only [wide, if_false]
        rfl

private theorem run_loadRows (schema : Schema) (type : EntityType) (scope : Option Grip)
    (rows : List Row) :
    (loadRows schema type scope rows).run (Seat.handler place) seat =
      seat.inWorld (TrackedQuery.loadRows schema type (scope.map seat.scopeOf) rows) := by
  unfold loadRows TrackedQuery.loadRows
  cases schema.resolve type.name with
  | error error => rfl
  | ok entity => exact run_loadEach seat entity type scope rows

private theorem run_loadPlan (schema : Schema) (type : EntityType) (plan : Plan)
    (scope : Option Grip) :
    (loadPlan schema type plan scope).run (Seat.handler place) seat =
      seat.inWorld (TrackedQuery.loadPlan schema type plan (scope.map seat.scopeOf)) := by
  simp only [loadPlan, TrackedQuery.loadPlan, run_bind, run_fetchRows, Seat.inWorld_bind]
  cases (seat.inWorld (TrackedQuery.fetchRows plan)).1 with
  | error error => rfl
  | ok rows => exact run_loadRows _ schema type scope rows

theorem run_finish (task : Task) :
    (finish task).run (Seat.handler place) seat =
      seat.inWorld (task.mapScope seat.scopeOf).run := by
  cases task with
  | load schema type plan scope finish =>
      simp only [Flow.finish, Task.mapScope, Task.run, run_bind, run_loadPlan, Seat.inWorld_bind]
      rfl
  | count plan finish =>
      simp only [Flow.finish, Task.mapScope, Task.run, run_bind, run_fetchCount, Seat.inWorld_bind]
      rfl
  | page schema type plans scope =>
      simp only [Flow.finish, Task.mapScope, Task.run, run_bind, run_fetchCount, Seat.inWorld_bind]
      -- the rows are asked for only if the count is not zero
      rcases (seat.inWorld (TrackedQuery.fetchCount plans.count)).1 with error | _ | others
      · rfl
      · rfl
      · simp only [run_bind, run_loadPlan, Seat.inWorld_bind]
        rfl
  | rows plan =>
      simp only [Flow.finish, Task.mapScope, Task.run, run_bind, run_fetchRows, Seat.inWorld_bind]
      rfl
  | widen schema type plan layout =>
      simp only [Flow.finish, Task.mapScope, Task.run, run_bind, run_fetchRows, Seat.inWorld_bind]
      cases Except.bind (seat.inWorld (TrackedQuery.fetchRows plan)).1 layout.widenAll with
      | error error => rfl
      | ok widened =>
          simp only [run_bind, run_loadRows, Seat.inWorld_bind]
          rfl

end Flow

end TrackedQuery
