import TrackedQuery.Proofs.Plan.Pairs

/-!
# What walks over expressions and plans that are the same have in common

Structural equality compares columns by where they lead and not by the handle that they were read
from.  So walks over two plans that are the same stop at columns that lead to the same places, as
deep and in the same order (`readAlike_of_same`).

## Strategy

`reads` keeps of a walk what equality compares of a column, and drops the stops that are no columns.
It goes through appended walks (`reads_append`), so that two nodes of one kind read alike if their
parts do, list by list (`readAlike_of_members`) and option by option (`readAlike_of_option`).
-/

namespace TrackedQuery

/-! ## The columns that a walk stops at -/

/-- How deep a walk stops at a column, and where the column leads. -/
def Visit.read? (visit : Visit) : Option (Nat × Nat × Alias × Nat) :=
  visit.column?.map fun ref => (visit.depth, ref.nesting, ref.table, ref.column)

/-- Where a walk stops at columns. -/
def reads (visits : List Visit) : List (Nat × Nat × Alias × Nat) := visits.filterMap Visit.read?

theorem reads_append (left right : List Visit) :
    reads (left ++ right) = reads left ++ reads right :=
  List.filterMap_append

theorem reads_cons_of_no_column {visit : Visit} (other : visit.column? = none)
    (rest : List Visit) : reads (visit :: rest) = reads rest :=
  List.filterMap_cons_none (by rw [Visit.read?, other, Option.map_none])

/-- Walks over two parts stop at the same columns, whatever depth they start at. -/
def ReadAlike {α : Type} (visits : Nat → α → List Visit) (left right : α) : Prop :=
  ∀ depth, reads (visits depth left) = reads (visits depth right)

section Members

variable {α : Type} {visits : Nat → α → List Visit}

/-- Walks over two lists stop at the same columns if those over their members do. -/
theorem readAlike_of_members {visitsAll : Nat → List α → List Visit}
    (cons : ∀ depth first rest,
      visitsAll depth (first :: rest) = visits depth first ++ visitsAll depth rest)
    {lefts rights : List α} (alike : List.Forall₂ (ReadAlike visits) lefts rights) :
    ReadAlike visitsAll lefts rights := by
  intro depth
  induction alike with
  | nil => rfl
  | cons first _ ih => rw [cons, cons, reads_append, reads_append, first depth, ih]

theorem readAlike_of_option {visitsOption : Nat → Option α → List Visit}
    (some : ∀ depth member, visitsOption depth (some member) = visits depth member)
    {left right : Option α} (alike : Option.Rel (ReadAlike visits) left right) :
    ReadAlike visitsOption left right := by
  intro depth
  cases alike with
  | none => rfl
  | some here => rw [some, some, here depth]

end Members

/-! ## Parts -/

theorem Expr.readAlike_all {lefts rights : List Expr}
    (alike : List.Forall₂ (ReadAlike Expr.visits) lefts rights) :
    ReadAlike Expr.visitsAll lefts rights :=
  readAlike_of_members (fun _ _ _ => by rw [visitsAll]) alike

private theorem Expr.readAlike_option {left right : Option Expr}
    (alike : Option.Rel (ReadAlike Expr.visits) left right) :
    ReadAlike Expr.visitsOption left right :=
  readAlike_of_option (fun _ _ => by rw [visitsOption]) alike

private theorem Plan.readAlike_option {left right : Option Plan}
    (alike : Option.Rel (ReadAlike Plan.visits) left right) :
    ReadAlike Plan.visitsOption left right :=
  readAlike_of_option (fun _ _ => by rw [visitsOption]) alike

theorem Branch.readAlike_all {lefts rights : List Branch}
    (alike : List.Forall₂ (fun left right => ReadAlike Expr.visits left.condition right.condition ∧
      ReadAlike Expr.visits left.result right.result) lefts rights) :
    ReadAlike Branch.visitsAll lefts rights := by
  refine readAlike_of_members (fun _ _ _ => by rw [visitsAll]) (alike.imp fun left right both => ?_)
  intro depth
  cases left
  cases right
  rw [visits, visits, reads_append, reads_append, both.1, both.2]

theorem Item.readAlike_all {lefts rights : List Item}
    (alike : List.Forall₂ (fun left right => ReadAlike Expr.visits left.expr right.expr)
      lefts rights) :
    ReadAlike Item.visitsAll lefts rights := by
  refine readAlike_of_members (fun _ _ _ => by rw [visitsAll]) (alike.imp fun left right here => ?_)
  intro depth
  cases left
  cases right
  exact here depth

theorem SortKey.readAlike_all {lefts rights : List SortKey}
    (alike : List.Forall₂ (fun left right => ReadAlike Expr.visits left.expr right.expr)
      lefts rights) :
    ReadAlike SortKey.visitsAll lefts rights := by
  refine readAlike_of_members (fun _ _ _ => by rw [visitsAll]) (alike.imp fun left right here => ?_)
  intro depth
  cases left
  cases right
  rw [visits, visits, reads_cons_of_no_column rfl, reads_cons_of_no_column rfl]
  exact here depth

theorem Join.readAlike_all {lefts rights : List Join}
    (alike : List.Forall₂ (fun left right => ReadAlike Expr.visits left.condition right.condition ∧
      Option.Rel (ReadAlike Plan.visits) left.rows right.rows) lefts rights) :
    ReadAlike Join.visitsAll lefts rights := by
  refine readAlike_of_members (fun _ _ _ => by rw [visitsAll]) (alike.imp fun left right both => ?_)
  intro depth
  obtain ⟨condition, rows⟩ := both
  cases left
  cases right
  rw [visits, visits, reads_cons_of_no_column rfl, reads_cons_of_no_column rfl, reads_append,
    reads_append, Plan.readAlike_option rows, condition]

/-- The rows of an arm are visited one level deeper. -/
theorem Arm.readAlike_all {lefts rights : List Arm}
    (alike : List.Forall₂ (fun left right => ReadAlike Plan.visits left.plan right.plan)
      lefts rights) :
    ReadAlike Arm.visitsAll lefts rights := by
  refine readAlike_of_members (fun _ _ _ => by rw [visitsAll]) (alike.imp fun left right here => ?_)
  intro depth
  cases left
  cases right
  exact here (depth + 1)

/-! ## What is the same -/

/-- Walks over expressions or plans that are the same stop at the same columns. -/
theorem readAlike_of_same : SameInduction (ReadAlike Expr.visits) (ReadAlike Plan.visits) where
  value literal literal' _ depth := rfl
  column ref ref' same depth := by
    simp only [ColumnRef.same, Bool.and_eq_true, beq_iff_eq] at same
    simp only [Expr.visits, reads, List.filterMap_cons, Visit.read?, Visit.column?,
      Expr.column?, Option.map_some, same, List.filterMap_nil]
  compare op lhs rhs lhs' rhs' left right depth := by
    rw [Expr.visits, Expr.visits, reads_cons_of_no_column rfl, reads_cons_of_no_column rfl,
      reads_append, reads_append, left, right]
  conj operands operands' each depth := by
    rw [Expr.visits, Expr.visits, reads_cons_of_no_column rfl, reads_cons_of_no_column rfl]
    exact Expr.readAlike_all each depth
  disj operands operands' each depth := by
    rw [Expr.visits, Expr.visits, reads_cons_of_no_column rfl, reads_cons_of_no_column rfl]
    exact Expr.readAlike_all each depth
  neg operand operand' alike depth := by
    rw [Expr.visits, Expr.visits, reads_cons_of_no_column rfl, reads_cons_of_no_column rfl]
    exact alike depth
  inList operand items operand' items' negated alike each depth := by
    rw [Expr.visits, Expr.visits, reads_cons_of_no_column rfl, reads_cons_of_no_column rfl,
      reads_append, reads_append, alike, Expr.readAlike_all each]
  like operand operand' pattern negated alike depth := by
    rw [Expr.visits, Expr.visits, reads_cons_of_no_column rfl, reads_cons_of_no_column rfl]
    exact alike depth
  isNull operand operand' negated alike depth := by
    rw [Expr.visits, Expr.visits, reads_cons_of_no_column rfl, reads_cons_of_no_column rfl]
    exact alike depth
  aggregate function argument argument' distinct _ alike depth := by
    rw [Expr.visits, Expr.visits, reads_cons_of_no_column rfl, reads_cons_of_no_column rfl]
    exact Expr.readAlike_option alike depth
  cases branches otherwise branches' otherwise' each alike depth := by
    rw [Expr.visits, Expr.visits, reads_cons_of_no_column rfl, reads_cons_of_no_column rfl,
      reads_append, reads_append, Branch.readAlike_all each, alike]
  -- a nested plan is read one level deeper, and alike there as well
  anyRow plan plan' negated _ alike depth := by
    rw [Expr.visits, Expr.visits, reads_cons_of_no_column rfl, reads_cons_of_no_column rfl]
    exact alike (depth + 1)
  inQuery operand plan operand' plan' negated _ alike nested depth := by
    rw [Expr.visits, Expr.visits, reads_cons_of_no_column rfl, reads_cons_of_no_column rfl,
      reads_append, reads_append, alike, nested]
  plan left right parts depth := by
    have joins := Join.readAlike_all parts.joins
    have items := Item.readAlike_all parts.projection
    have keys := SortKey.readAlike_all parts.orderBy
    have arms := Arm.readAlike_all parts.arms
    have filter := Expr.readAlike_option parts.filter
    have groupBy := Expr.readAlike_all parts.groupBy
    have having := Expr.readAlike_option parts.having
    cases left
    cases right
    rw [Plan.visits, Plan.visits, reads_cons_of_no_column rfl, reads_cons_of_no_column rfl]
    simp only [reads_append]
    rw [reads_cons_of_no_column rfl, reads_cons_of_no_column rfl, joins, items, keys, arms,
      filter, groupBy, having]

end TrackedQuery
