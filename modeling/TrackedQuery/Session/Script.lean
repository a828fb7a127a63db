import TrackedQuery.Database.Connection

/-!
# Scripted databases

A scripted database answers operations with the answers it was given, in order, and remembers what
it was asked.  When no answer is left it answers as an empty database would that lets every update
find its row.
-/

namespace TrackedQuery

/-- The state of a scripted database. -/
structure Script where
  /-- The answers still to be given. -/
  answers : List (Result Answer)
  /-- The operations so far. -/
  log : List Operation

namespace Script

/-- No answers and no operations yet. -/
def empty : Script := ⟨[], []⟩

/-- The answer to an operation that no answer is left for. -/
def defaultAnswer : Operation → Answer
  | .query _ => .rows []
  | .update _ => .count 1
  | .transaction _ => .count 0

/-- Answers an operation, and remembers it. -/
def answer (script : Script) (operation : Operation) : Result Answer × Script :=
  let log := script.log ++ [operation]
  match script.answers with
  | [] => (.ok (defaultAnswer operation), ⟨[], log⟩)
  | next :: rest => (next, ⟨rest, log⟩)

/-- Appends answers. -/
def push (script : Script) (answers : List (Result Answer)) : Script :=
  { script with answers := script.answers ++ answers }

/-- The database that follows a script. -/
def database : Database Script := ⟨answer⟩

end Script

end TrackedQuery
