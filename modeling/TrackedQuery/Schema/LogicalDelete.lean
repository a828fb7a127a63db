import TrackedQuery.Ty

/-!
# Logical deletion

An entity may mark its rows as deleted instead of removing them.  The mark is a column: a truth
value, or a point in time that is `NULL` while the row lives.
-/

namespace TrackedQuery

/-- How a deleted row is marked. -/
inductive DeleteStrategy where
  /-- A truth value, true once the row is deleted. -/
  | boolean
  /-- A point in time, set once the row is deleted. -/
  | timestamp
deriving DecidableEq

/-- The name of a strategy in messages. -/
def DeleteStrategy.describe : DeleteStrategy → String
  | .boolean => "Boolean"
  | .timestamp => "Timestamp"

/-- The column that marks deleted rows, and how. -/
structure LogicalDelete where
  column : String
  strategy : DeleteStrategy
deriving DecidableEq

/-- Whether a column of the given type can carry the mark.  A point in time is stored as a number or
as text and must be able to be absent. -/
def DeleteStrategy.accepts (strategy : DeleteStrategy) (ty : Ty) (nullable : Bool) : Bool :=
  match strategy with
  | .boolean => ty.isBool
  | .timestamp => nullable && (ty.isNumeric || ty.isString)

end TrackedQuery
