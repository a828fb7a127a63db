import TrackedQuery.Plan.Basic

/-!
# Updates

An update assigns values to columns of the rows that a filter selects.  Assignments keep the order
in which their columns were first assigned; assigning a column again changes the value and nothing
else (`columns_assign`, `get?_assign_self`, `get?_assign_of_ne`).
-/

namespace TrackedQuery

/-- A value for one column, with the name of the column for readers. -/
structure Assignment where
  column : Nat
  name : String
  value : Value

/-- Assignments to distinct columns, in the order the columns were first assigned. -/
abbrev Assignments := List Assignment

namespace Assignments

/-- Assigns a column. -/
def assign (assignments : Assignments) (column : Nat) (name : String) (value : Value) :
    Assignments :=
  match assignments with
  | [] => [⟨column, name, value⟩]
  | first :: rest =>
      if first.column = column then ⟨column, name, value⟩ :: rest
      else first :: assign rest column name value

/-- The assignment to a column. -/
def get? (assignments : Assignments) (column : Nat) : Option Assignment :=
  assignments.find? fun assignment => assignment.column == column

/-- Whether a column is assigned. -/
def assigns (assignments : Assignments) (column : Nat) : Bool := (assignments.get? column).isSome

/-- The assigned columns, in order. -/
def columns (assignments : Assignments) : List Nat := assignments.map Assignment.column

theorem get?_assign_self (assignments : Assignments) (column : Nat) (name : String)
    (value : Value) :
    (assignments.assign column name value).get? column = some ⟨column, name, value⟩ := by
  induction assignments with
  | nil => simp [assign, get?]
  | cons first rest ih =>
      by_cases hfirst : first.column = column
      · simp [assign, get?, hfirst]
      · simpa [assign, get?, hfirst] using ih

/-- Assigning one column leaves the others alone. -/
theorem get?_assign_of_ne {other column : Nat} (distinct : other ≠ column)
    (assignments : Assignments) (name : String) (value : Value) :
    (assignments.assign column name value).get? other = assignments.get? other := by
  induction assignments with
  | nil => simp [assign, get?, Ne.symm distinct]
  | cons first rest ih =>
      by_cases hfirst : first.column = column
      · simp [assign, get?, hfirst, Ne.symm distinct]
      · by_cases hother : first.column = other
        · simp [assign, get?, hother, distinct]
        · simpa [assign, get?, hfirst, hother] using ih

/-- A column keeps its place; a new one comes last. -/
theorem columns_assign (assignments : Assignments) (column : Nat) (name : String)
    (value : Value) :
    (assignments.assign column name value).columns =
      if column ∈ assignments.columns then assignments.columns
      else assignments.columns ++ [column] := by
  induction assignments with
  | nil => simp [assign, columns]
  | cons first rest ih =>
      by_cases hfirst : first.column = column
      · simp [assign, columns, hfirst]
      · have hassign : (assign (first :: rest) column name value).columns =
            first.column :: (assign rest column name value).columns := by
          simp [assign, columns, hfirst]
        rw [hassign, ih]
        by_cases hrest : column ∈ columns rest
        · have hall : column ∈ columns (first :: rest) := List.mem_cons_of_mem _ hrest
          rw [if_pos hrest, if_pos hall]
          rfl
        · have hall : column ∉ columns (first :: rest) := by
            simpa [columns, Ne.symm hfirst] using hrest
          rw [if_neg hrest, if_neg hall]
          rfl

end Assignments

/-- Assignments to the rows of a table that a filter on its base alias selects. -/
structure Update where
  entity : String
  table : String
  assignments : Assignments
  filter : Expr

end TrackedQuery
