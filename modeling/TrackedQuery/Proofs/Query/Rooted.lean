import TrackedQuery.Proofs.Query.Recording
import TrackedQuery.Program

/-!
# The tables of a query stay its tables

The base table of a query, and the tables that were joined on request, are roots of its context.  A
clause may add joins, by navigations or by nested queries, but it takes no table away and no root
its place.  So the handles that a body is given are the same in every later clause
(`Query.Rooted.handlesIn_eq`).
-/

namespace TrackedQuery

/-- The tables of a query are roots of its context. -/
structure Query.Rooted (recording : Recording) (query : Query) : Prop where
  known : query.context < recording.contexts.length
  led : (recording.contextAt query.context).Led
  roots : ∀ table ∈ query.tables, (recording.contextAt query.context).Root table

/-- The handles of the tables of a query that the body of a clause is given. -/
def Query.handlesIn (recording : Recording) (query : Query) : List TableHandle :=
  query.tables.map fun table =>
    ⟨query.context, (recording.contextAt query.context).binding? table⟩

/-- The bodies of all clauses of a query are given the same handles. -/
theorem Query.Rooted.handlesIn_eq {before after : Recording} {query : Query}
    (rooted : query.Rooted before) (grows : before.Grows after) :
    query.handlesIn after = query.handlesIn before := by
  refine List.map_congr_left fun table mem => ?_
  rw [(grows.contexts query.context rooted.known).binding?_root (rooted.roots table mem)]

/-- The tables of the query are roots; a projection gives no more tables to a body. -/
def Stage.Rooted (recording : Recording) : Stage → Prop
  | .query built => built.Rooted recording
  | .grouped built => built.query.Rooted recording
  | .projected _ => True

end TrackedQuery
