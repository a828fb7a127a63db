import TrackedQuery.Proofs.Plan.Truth

/-!
# Conditions that are joined

Conditions are joined two at a time, and a conjunction on the left takes in what is joined to it.
Joining any number of conditions from the left therefore builds one conjunction of just these, in
this order, as long as none of them is a conjunction itself, whose operands would be taken in, or
the literal `true`, which would be dropped.  Disjunctions are built alike, and they drop nothing.
Both are cases of `Expr.foldl_collects`.

Whatever is taken in or dropped, the meaning is that of the conditions that were joined
(`Evaluation.joins_conditions`).
-/

namespace TrackedQuery

namespace Expr

/-- What stays one operand of a conjunction. -/
def IsConjunct (expr : Expr) : Prop := expr.isConj = false ∧ expr.isTrue = false

/-- What stays one operand of a disjunction. -/
def IsDisjunct (expr : Expr) : Prop := expr.isDisj = false

/-! ## Two conditions -/

private theorem and_eq_conj {lhs rhs : Expr} (left : lhs.IsConjunct) (right : rhs.IsConjunct) :
    lhs.and rhs = .conj [lhs, rhs] := by
  unfold Expr.and
  rw [if_neg (by simp [left.2]), if_neg (by simp [right.2])]
  split
  · cases left.1
  · cases left.1
  · rfl

/-- A conjunction takes in what is joined to it. -/
theorem conj_and {operands : List Expr} {rhs : Expr} (right : rhs.IsConjunct) :
    (conj operands).and rhs = .conj (operands ++ [rhs]) := by
  unfold Expr.and
  rw [if_neg (by simp [isTrue]), if_neg (by simp [right.2])]
  split
  · cases right.1
  · next same _ => rw [conj.inj same]
  · next other _ => exact absurd rfl (other operands)

private theorem or_eq_disj {lhs rhs : Expr} (left : lhs.IsDisjunct) :
    lhs.or rhs = .disj [lhs, rhs] := by
  unfold Expr.or
  split
  · cases left
  · cases left
  · rfl

/-- A disjunction takes in what is joined to it. -/
theorem disj_or {operands : List Expr} {rhs : Expr} (right : rhs.IsDisjunct) :
    (disj operands).or rhs = .disj (operands ++ [rhs]) := by
  unfold Expr.or
  split
  · cases right
  · next same _ => rw [disj.inj same]
  · next other _ => exact absurd rfl (other operands)

/-! ## Any number of conditions -/

/-- A way of joining that makes a node of two operands, and that adds operands to such a node, makes
one node of any number of operands. -/
theorem foldl_collects {join : Expr → Expr → Expr} {node : List Expr → Expr} {Stays : Expr → Prop}
    (two : ∀ {lhs rhs}, Stays lhs → Stays rhs → join lhs rhs = node [lhs, rhs])
    (more : ∀ {operands rhs}, Stays rhs → join (node operands) rhs = node (operands ++ [rhs]))
    {first second : Expr} {rest : List Expr}
    (each : ∀ operand ∈ first :: second :: rest, Stays operand) :
    (second :: rest).foldl join first = node (first :: second :: rest) := by
  have added : ∀ (operands rest : List Expr), (∀ operand ∈ rest, Stays operand) →
      rest.foldl join (node operands) = node (operands ++ rest) := by
    intro operands rest each
    induction rest generalizing operands with
    | nil => rw [List.foldl_nil, List.append_nil]
    | cons next rest ih =>
        rw [List.forall_mem_cons] at each
        rw [List.foldl_cons, more each.1, ih _ each.2, List.append_assoc, List.singleton_append]
  simp only [List.forall_mem_cons] at each
  obtain ⟨left, right, each⟩ := each
  calc (second :: rest).foldl join first
      = rest.foldl join (node [first, second]) := by rw [List.foldl_cons, two left right]
    _ = node (first :: second :: rest) := added [first, second] rest each

end Expr

/-- Joined conditions mean what Kleene's connectives make of their meanings, and conditions that
stay operands and are joined from the left are, in order, the operands of one node. -/
theorem Evaluation.joins_conditions (evaluation : Evaluation) :
    (∀ lhs rhs,
      evaluation.truth (lhs.and rhs) = (evaluation.truth lhs).and (evaluation.truth rhs)) ∧
    (∀ lhs rhs,
      evaluation.truth (lhs.or rhs) = (evaluation.truth lhs).or (evaluation.truth rhs)) ∧
    (∀ operands, evaluation.truth (.all operands) = Truth.all (operands.map evaluation.truth)) ∧
    (∀ first second rest, (∀ operand ∈ first :: second :: rest, operand.IsConjunct) →
      (second :: rest).foldl Expr.and first = .conj (first :: second :: rest)) ∧
    (∀ first second rest, (∀ operand ∈ first :: second :: rest, operand.IsDisjunct) →
      (second :: rest).foldl Expr.or first = .disj (first :: second :: rest)) := by
  refine ⟨evaluation.truth_and, evaluation.truth_or, evaluation.truth_all, ?_, ?_⟩
  · exact fun _ _ _ each => Expr.foldl_collects Expr.and_eq_conj Expr.conj_and each
  · exact fun _ _ _ each =>
      Expr.foldl_collects (fun left _ => Expr.or_eq_disj left) Expr.disj_or each

namespace Example

/-- A row with two flags, of which the second is `NULL`. -/
def flagsRow : Environment where
  column _ _ column := if column = 0 then .bool true else .null
  compare _ _ _ := true
  like _ _ := false
  aggregate _ _ _ := .null
  anyRow _ := false
  member _ _ := none

/-- The flags as conditions. -/
def flag (column : Nat) : Expr := .column (.local 0 column)

/-- Of a flag that is known and one that is not, it is unknown whether both hold, and one does.  The
flags and a disjunction of them are joined to one conjunction, and in the same way the flags and a
conjunction of them to one disjunction. -/
theorem joins_conditions_flags :
    flagsRow.evaluation.truth ((flag 0).and (flag 1)) = none ∧
      flagsRow.evaluation.truth ((flag 0).or (flag 1)) = some true ∧
      flagsRow.evaluation.truth (.all [flag 0, .truth, flag 1]) = none ∧
      (∀ operand ∈ [flag 0, flag 1, .disj [flag 0, flag 1]], operand.IsConjunct) ∧
      [flag 1, .disj [flag 0, flag 1]].foldl Expr.and (flag 0) =
        .conj [flag 0, flag 1, .disj [flag 0, flag 1]] ∧
      (∀ operand ∈ [flag 0, flag 1, .conj [flag 0, flag 1]], operand.IsDisjunct) ∧
      [flag 1, .conj [flag 0, flag 1]].foldl Expr.or (flag 0) =
        .disj [flag 0, flag 1, .conj [flag 0, flag 1]] := by
  obtain ⟨both, either, every, conj, disj⟩ := flagsRow.evaluation.joins_conditions
  have conjuncts : ∀ operand ∈ [flag 0, flag 1, .disj [flag 0, flag 1]], operand.IsConjunct := by
    simp [flag, Expr.IsConjunct, Expr.isConj, Expr.isTrue]
  have disjuncts : ∀ operand ∈ [flag 0, flag 1, .conj [flag 0, flag 1]], operand.IsDisjunct := by
    simp [flag, Expr.IsDisjunct, Expr.isDisj]
  exact ⟨(both _ _).trans rfl, (either _ _).trans rfl, (every _).trans rfl, conjuncts,
    conj _ _ _ conjuncts, disjuncts, disj _ _ _ disjuncts⟩

end Example

end TrackedQuery
