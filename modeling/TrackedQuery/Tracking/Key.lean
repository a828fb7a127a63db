import TrackedQuery.Schema

/-!
# Keys of instances

An instance is identified by its entity and the values of its key columns.  Keys are looked up as a
keyed store does it, by `Value.foundUnder`: a key with a NaN in it is found under no key, not even
itself.
-/

namespace TrackedQuery

/-- The identity of an instance. -/
structure EntityKey where
  entity : String
  /-- The value of the key column, or a tuple of the values of several. -/
  key : Value

/-- The values of the key columns of a row; a row may be too short to have them all. -/
def Entity.keyFields (entity : Entity) (record : Row) : List Nat → Result Row
  | [] => .ok []
  | index :: rest =>
      match record[index]? with
      | none => fail (.invalidStatement (.missingKeyField entity.name record.length index))
      | some field => do
          let fields ← entity.keyFields record rest
          return field :: fields

namespace EntityKey

/-- The value that stands for the values of the key columns. -/
def keyValue : Row → Value
  | [field] => field
  | fields => .record fields

/-- The key of a row of an entity. -/
def ofRecord (entity : Entity) (record : Row) : Result EntityKey := do
  let fields ← entity.keyFields record entity.primaryKey
  return ⟨entity.name, keyValue fields⟩

/-- Whether a store that holds the first key finds it under the second. -/
def foundUnder (stored probe : EntityKey) : Bool :=
  stored.entity == probe.entity && stored.key.foundUnder probe.key

/-- The text of a key. -/
def describe (key : EntityKey) : String := key.entity ++ "(" ++ key.key.describe ++ ")"

end EntityKey

end TrackedQuery
