import TrackedQuery.Schema
import TrackedQuery.Value.Convert

/-!
# Instances of entities

An entity type is what a caller loads rows as: the name its entity is registered under, and how each
column is read.  An instance keeps the values as they were read, so it may differ from the row it
was loaded from: a 64-bit number in a row becomes a 32-bit number in a 32-bit column.
-/

namespace TrackedQuery

/-- How the values of a column are read: at its declared type, and possibly absent if it is
nullable. -/
def Column.reading (column : Column) : Reading := ⟨.ofTy column.ty, column.nullable⟩

/-- What rows are loaded as. -/
structure EntityType where
  /-- The name of the entity. -/
  name : String
  /-- How each column is read, in declaration order. -/
  readings : List Reading

/-- An instance of an entity. -/
structure Instance where
  entity : String
  /-- The value of each column, in declaration order. -/
  record : Row

namespace EntityType

/-- The type whose instances hold the columns of an entity. -/
def ofEntity (name : String) (entity : Entity) : EntityType :=
  ⟨name, entity.columns.map Column.reading⟩

/-- Reads each value of a row as its column asks; the first failure counts. -/
def loadFields : List Reading → Row → Result Row
  | reading :: readings, value :: values => do
      let field ← reading.load value
      let fields ← loadFields readings values
      return field :: fields
  | [], _ | _ :: _, [] => .ok []

/-- Loads a row. -/
def load (type : EntityType) (row : Row) : Result Instance := do
  return ⟨type.name, ← loadFields type.readings row⟩

end EntityType

end TrackedQuery
