import TrackedQuery.Error
import TrackedQuery.Plan.Update

/-!
# Operations and answers

What the library asks of a database, and what a database answers.  The library never looks inside a
database: it sends operations and reads answers.
-/

namespace TrackedQuery

/-- A step in the life of a transaction. -/
inductive TransactionStep where
  | start
  | commit
  | rollback
deriving DecidableEq

/-- What a database is asked to do. -/
inductive Operation where
  | query (plan : Plan)
  | update (update : Update)
  | transaction (step : TransactionStep)

namespace Operation

/-- The plan of a query. -/
def query? : Operation → Option Plan
  | .query plan => some plan
  | _ => none

/-- The update of an update operation. -/
def update? : Operation → Option Update
  | .update change => some change
  | _ => none

/-- Whether the operation concerns a transaction. -/
def isTransaction : Operation → Bool
  | .transaction _ => true
  | _ => false

end Operation

/-- The answer of a database: how many rows were concerned, or rows. -/
inductive Answer where
  | count (count : Nat)
  | rows (rows : List Row)

namespace Answer

/-- Whether the answer is a count. -/
def isCount : Answer → Bool
  | .count _ => true
  | .rows _ => false

/-- Whether the answer consists of rows. -/
def isRows : Answer → Bool
  | .count _ => false
  | .rows _ => true

/-- The number of rows concerned; rows count themselves. -/
def toCount : Answer → Nat
  | .count number => number
  | .rows found => found.length

/-- The rows of an answer. -/
def toRows : Answer → Result (List Row)
  | .count _ => fail (.database .rowsExpected)
  | .rows found => .ok found

/-- Whether an answer is a set of rows without any row. -/
def isEmptyRows : Answer → Bool
  | .count _ => false
  | .rows found => found.isEmpty

end Answer

end TrackedQuery
