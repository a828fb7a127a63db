import TrackedQuery.Plan.Update
import TrackedQuery.Tracking.Key

/-!
# Change sets

A change set lists the columns of an instance that an update writes.  Columns of the key and the
column that marks deleted rows are never among them.  Of an instance whose row is known, only the
columns that differ from the row are written, floating-point numbers being compared by their bits;
of another instance, every column is.
-/

namespace TrackedQuery

/-- What an instance was compared with. -/
inductive ChangeMode where
  /-- With the row it was loaded from. -/
  | diff
  /-- With nothing: every column that can be written is. -/
  | full
deriving DecidableEq

/-- The columns that an update writes. -/
structure ChangeSet where
  key : EntityKey
  mode : ChangeMode
  /-- The changes, in the order of their columns. -/
  changes : Assignments

/-- Whether an update may write the column at a position. -/
def Entity.isUpdatable (entity : Entity) (index : Nat) : Bool :=
  !entity.isPrimaryKey index && entity.deleteMarkIndex? != some index

namespace ChangeSet

/-- Whether a known row holds the given value at a position. -/
def isUnchanged (known : Option Row) (index : Nat) (value : Value) : Bool :=
  match known with
  | none => false
  | some row =>
      match row[index]? with
      | none => false
      | some before => before.identical value

/-- The changes of the columns from a position on. -/
def changesFrom (entity : Entity) (known : Option Row) (index : Nat) :
    List Column → Row → Assignments
  | column :: columns, value :: values =>
      let rest := changesFrom entity known (index + 1) columns values
      if entity.isUpdatable index && !isUnchanged known index value then
        ⟨index, column.name, value⟩ :: rest
      else rest
  | _, _ => []

/-- Compares the row of an instance with the row it was loaded from, if that is known. -/
def compute (entity : Entity) (record : Row) (known : Option Row) : Result ChangeSet :=
  if record.length = entity.columns.length then do
    let key ← EntityKey.ofRecord entity record
    return ⟨key, if known.isSome then .diff else .full,
      changesFrom entity known 0 entity.columns record⟩
  else
    fail (.invalidStatement (.recordWidth entity.name record.length entity.columns.length))

/-- The value of the first change of a column of the given name. -/
def get? (changes : ChangeSet) (name : String) : Option Value :=
  (changes.changes.find? fun change => change.name == name).map Assignment.value

/-- The values of the key columns of a key. -/
def keyFields (entity : Entity) (key : Value) : Row :=
  match entity.primaryKey, key with
  | [_], value => [value]
  | _, .record fields => fields
  | _, value => [value]

/-- The condition that a row has the given key. -/
def keyCondition (entity : Entity) (key : Value) : Expr :=
  .all (List.zipWith
    (fun index value => .equals (.column (.local baseAlias index)) (.value value))
    entity.primaryKey (keyFields entity key))

/-- The update that writes a change set to the row of its key. -/
def toUpdate (changes : ChangeSet) (entity : Entity) : Update :=
  { entity := entity.name
    table := entity.table
    assignments := changes.changes
    filter := keyCondition entity changes.key.key }

end ChangeSet

end TrackedQuery
