import TrackedQuery.Database.Load
import TrackedQuery.Tracking.ChangeSet

/-!
# Updating instances

An update writes the change set of an instance, and nothing if that is empty.  It is prepared first
and sent later: the change set, the update and the scope are those of the time of preparation.  When
the database reports success, the snapshot of the instance becomes its row, so that the same update
finds nothing more to write.
-/

namespace TrackedQuery

variable {δ : Type}

/-- An update that was prepared. -/
structure PreparedUpdate where
  key : EntityKey
  record : Row
  /-- The scope to keep up to date; an instance that was not captured has none. -/
  scope : Option ScopeId
  /-- What is sent, unless there is nothing to write. -/
  update : Option Update

namespace Connection

/-- The change set of an instance as it stands, on a thread. -/
def changeSet (connection : Connection) (tracking : Tracking) (thread : ThreadId)
    (subject : Instance) : Result ChangeSet := do
  let entity ← connection.schema.resolve subject.entity
  let key ← EntityKey.ofRecord entity subject.record
  let known := (tracking.active? thread connection.manager).bind fun scope =>
    ((tracking.scopeAt scope).snapshot? key).map Snapshot.record
  ChangeSet.compute entity subject.record known

/-- Prepares the update of an instance. -/
def prepareUpdate (connection : Connection) (tracking : Tracking) (thread : ThreadId)
    (subject : Instance) : Result PreparedUpdate := do
  let entity ← connection.schema.resolve subject.entity
  let changes ← connection.changeSet tracking thread subject
  return {
    key := changes.key
    record := subject.record
    scope :=
      match changes.mode with
      | .diff => tracking.active? thread connection.manager
      | .full => none
    update := if changes.changes.isEmpty then none else some (changes.toUpdate entity) }

/-- Captures an instance on behalf of its owner. -/
def addTracking (connection : Connection) (tracking : Tracking) (thread : ThreadId)
    (subject : Instance) : Result Tracking := do
  let entity ← connection.schema.resolve subject.entity
  let key ← EntityKey.ofRecord entity subject.record
  let scope ← tracking.requireActive thread connection.manager "add_tracking"
  tracking.capture scope key subject.record "add_tracking"

/-- Captures instances of an entity one after the other.  The first failure ends it; what was
captured until then stays. -/
def captureEach (entity : Entity) (scope : ScopeId) (tracking : Tracking) :
    List Instance → Result Unit × Tracking
  | [] => (.ok (), tracking)
  | subject :: rest =>
      let captured := do
        let key ← EntityKey.ofRecord entity subject.record
        tracking.capture scope key subject.record "add_tracking"
      match captured with
      | .error error => (.error error, tracking)
      | .ok tracking => captureEach entity scope tracking rest

/-- Captures instances of the entity of the given name. -/
def addTrackingAll (connection : Connection) (tracking : Tracking) (thread : ThreadId)
    (entity : String) (subjects : List Instance) : Result Unit × Tracking :=
  let ready := do
    let scope ← tracking.requireActive thread connection.manager "add_tracking"
    let entity ← connection.schema.resolve entity
    return (scope, entity)
  match ready with
  | .error error => (.error error, tracking)
  | .ok (scope, entity) => captureEach entity scope tracking subjects

end Connection

/-- Sends a prepared update and answers how many rows it wrote. -/
def PreparedUpdate.execute (prepared : PreparedUpdate) : WorldM δ (Result Nat) := do
  match prepared.update with
  | none => return .ok 0
  | some update =>
      match ← sendOperation (.update update) with
      | .error error => return .error error
      | .ok answer =>
          match prepared.scope with
          | none => return .ok answer.toCount
          | some scope =>
              modify fun world =>
                { world with
                  tracking := world.tracking.refresh scope prepared.key prepared.record }
              return .ok answer.toCount

end TrackedQuery
