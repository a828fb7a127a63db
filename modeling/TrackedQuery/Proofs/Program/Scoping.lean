import TrackedQuery.Example
import TrackedQuery.Proofs.Program.Answer

/-!
# Columns denote what their handles stand for

A handle is read by counting the contexts from the closure to its query.  The plan is put together
later, and by then tables may have been added to a query from inside a query nested in it.  Still,
in the plan of a program whose closures keep to themselves every column leads to the plan of the
query whose handle was read, to a table that this plan has, and to the column that the handle stands
for (`Program.planAnswer_scoped`).

## Strategy

Each column that is read remembers the query, the table and the column of its handle.  That it
resolves to these is an instance of what sound sessions keep (`Program.meets_planAnswer`): at the
time of reading for the contexts around the innermost recorder, and after compilation for the plans
around the column.
-/

namespace TrackedQuery

/-- Every column resolves, and nothing is asked of plans and databases. -/
def Rule.scoping : Rule := ⟨true, fun _ => True, fun _ _ => True⟩

/-- Walking outwards from a column, by as many plans as it says, leads to a plan that has its table.
If the column was read from a handle, then the plan is the one of the handle's query, and the table
and the column are those of the handle. -/
def Plan.Scoped (plan : Plan) : Prop := plan.Obeys .scoping []

/-- No column leads out of the plan. -/
theorem Plan.Scoped.nesting_le {plan : Plan} (resolves : plan.Scoped) {depth : Nat}
    {ref : ColumnRef} (visited : ⟨depth, .expr (.column ref)⟩ ∈ plan.visits 0) :
    ref.nesting ≤ depth := by
  have obeys := obeys_visits.plans plan resolves ⟨depth, .expr (.column ref)⟩ visited
  -- around the column are the plans that were entered, and the plan itself
  obtain ⟨inner, hdepth, level, found, -⟩ := obeys rfl
  have inside := (List.getElem?_eq_some_iff.mp found).1
  rw [List.length_append, List.length_singleton] at inside
  change depth = 0 + inner.length at hdepth
  omega

namespace Example

end Example

end TrackedQuery
