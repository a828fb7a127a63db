import TrackedQuery.Database.Connection
import TrackedQuery.Instance
import TrackedQuery.Query.Layout

/-!
# Loading rows

What is read from the answers of a database: rows, counts and instances.  Instances that are loaded
for a tracked query are captured as they were in their rows, each before it is loaded itself.
-/

namespace TrackedQuery

variable {δ : Type}

/-- What a computation in a world answers. -/
abbrev WorldM (δ : Type) := StateM (World δ)

/-- Sends an operation. -/
def sendOperation (operation : Operation) : WorldM δ (Result Answer) := fun world =>
  world.send operation

/-! ## Reading answers -/

/-- The count in a value of a row. -/
def countIn (value : Value) : Result Nat := do
  let count ← value.toInt64
  if count.toInt < 0 then fail (.database (.negativeCount count.toInt))
  else return count.toInt.toNat

/-- The number that answers a counting plan: a count, or the first value of the first row.  No value
counts nothing. -/
def Answer.counted : Answer → Result Nat
  | .count number => .ok number
  | .rows ((value :: _) :: _) => countIn value
  | .rows _ => .ok 0

/-- Sends a plan and reads rows. -/
def fetchRows (plan : Plan) : WorldM δ (Result (List Row)) := do
  return (← sendOperation (.query plan)).bind Answer.toRows

/-- Sends a plan and reads a count. -/
def fetchCount (plan : Plan) : WorldM δ (Result Nat) := do
  return (← sendOperation (.query plan)).bind Answer.counted

/-! ## Loading instances -/

/-- Captures a row before it is loaded, if rows are tracked. -/
def captureRow (entity : Entity) (scope : Option ScopeId) (row : Row) (tracking : Tracking) :
    Result Tracking :=
  match scope with
  | none => .ok tracking
  | some scope => do
      let key ← EntityKey.ofRecord entity row
      tracking.capture scope key row "as_tracking"

/-- Loads rows one after the other.  The first failure ends it; what was captured until then
stays. -/
def loadEach (entity : Entity) (type : EntityType) (scope : Option ScopeId) (tracking : Tracking) :
    List Row → Result (List Instance) × Tracking
  | [] => (.ok [], tracking)
  | row :: rest =>
      if row.length = entity.columns.length then
        match captureRow entity scope row tracking with
        | .error error => (.error error, tracking)
        | .ok tracking =>
            match type.load row with
            | .error error => (.error error, tracking)
            | .ok loaded =>
                let (others, tracking) := loadEach entity type scope tracking rest
                (others.map (loaded :: ·), tracking)
      else
        (fail (.database (.rowWidth entity.columns.length type.name row.length)), tracking)

/-- Loads rows as instances of an entity type. -/
def loadRows (schema : Schema) (type : EntityType) (scope : Option ScopeId) (rows : List Row) :
    WorldM δ (Result (List Instance)) := do
  match schema.resolve type.name with
  | .error error => return .error error
  | .ok entity =>
      modifyGet fun world =>
        let (loaded, tracking) := loadEach entity type scope world.tracking rows
        (loaded, { world with tracking := tracking })

/-- Sends a plan and loads the rows of the answer. -/
def loadPlan (schema : Schema) (type : EntityType) (plan : Plan) (scope : Option ScopeId) :
    WorldM δ (Result (List Instance)) := do
  match ← fetchRows plan with
  | .error error => return .error error
  | .ok rows => loadRows schema type scope rows

end TrackedQuery
