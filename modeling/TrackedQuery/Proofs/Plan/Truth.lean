import Mathlib.Data.List.Basic
import TrackedQuery.Plan.Build
import TrackedQuery.Schema

/-!
# What conditions mean

A condition is true, false or unknown, as in SQL: unknown is what comparing with `NULL` yields, and
connectives combine the three truth values by the rules of Kleene.  The rows that a condition is
evaluated on are any assignment of values to columns.  What the operators of a database make of
values that are not `NULL`, what aggregates yield and which rows nested plans have is left open
(`Environment`).

The connectives that simplify as they build keep the meaning: `truth_and`, `truth_or` and
`truth_all`.  They do so for any truth values of the expressions that are joined (`Evaluation`).
-/

namespace TrackedQuery

/-! ## Three truth values -/

/-- True, false, or unknown. -/
abbrev Truth := Option Bool

namespace Truth

/-- Conjunction: false when either side is. -/
def and : Truth → Truth → Truth
  | some false, _ | _, some false => some false
  | some true, some true => some true
  | _, _ => none

/-- Disjunction: true when either side is. -/
def or : Truth → Truth → Truth
  | some true, _ | _, some true => some true
  | some false, some false => some false
  | _, _ => none

/-- Negation: the unknown stays unknown. -/
def not : Truth → Truth
  | some value => some !value
  | none => none

/-- The conjunction of a list. -/
def all (truths : List Truth) : Truth := truths.foldr and (some true)

/-- The disjunction of a list. -/
def any (truths : List Truth) : Truth := truths.foldr or (some false)

@[simp] theorem true_and (truth : Truth) : and (some true) truth = truth := by
  rcases truth with _ | _ | _ <;> rfl

@[simp] theorem and_true (truth : Truth) : truth.and (some true) = truth := by
  rcases truth with _ | _ | _ <;> rfl

theorem and_eq_true {lhs rhs : Truth} :
    lhs.and rhs = some true ↔ lhs = some true ∧ rhs = some true := by
  rcases lhs with _ | _ | _ <;> rcases rhs with _ | _ | _ <;> simp [and]

private theorem and_assoc (first second third : Truth) :
    (first.and second).and third = first.and (second.and third) := by
  rcases first with _ | _ | _ <;> rcases second with _ | _ | _ <;> rcases third with _ | _ | _ <;>
    rfl

instance : Std.Associative and := ⟨and_assoc⟩

@[simp] theorem all_nil : all [] = some true := rfl

@[simp] theorem all_cons (first : Truth) (rest : List Truth) :
    all (first :: rest) = first.and (all rest) := rfl

@[simp] theorem all_append (left right : List Truth) :
    all (left ++ right) = (all left).and (all right) := by
  calc all (left ++ right) = left.foldr and (all right) := List.foldr_append
    _ = left.foldr and (and (some true) (all right)) := by rw [true_and]
    _ = (all left).and (all right) := List.foldr_assoc

@[simp] theorem false_or (truth : Truth) : or (some false) truth = truth := by
  rcases truth with _ | _ | _ <;> rfl

@[simp] theorem or_false (truth : Truth) : truth.or (some false) = truth := by
  rcases truth with _ | _ | _ <;> rfl

private theorem or_assoc (first second third : Truth) :
    (first.or second).or third = first.or (second.or third) := by
  rcases first with _ | _ | _ <;> rcases second with _ | _ | _ <;> rcases third with _ | _ | _ <;>
    rfl

instance : Std.Associative or := ⟨or_assoc⟩

@[simp] theorem any_nil : any [] = some false := rfl

@[simp] theorem any_cons (first : Truth) (rest : List Truth) :
    any (first :: rest) = first.or (any rest) := rfl

@[simp] theorem any_append (left right : List Truth) :
    any (left ++ right) = (any left).or (any right) := by
  calc any (left ++ right) = left.foldr or (any right) := List.foldr_append
    _ = left.foldr or (or (some false) (any right)) := by rw [false_or]
    _ = (any left).or (any right) := List.foldr_assoc

end Truth

/-! ## Connectives -/

theorem Expr.eq_truth_of_isTrue {expr : Expr} (literal : expr.isTrue = true) :
    expr = Expr.truth := by
  unfold Expr.isTrue at literal
  split at literal
  · rfl
  · cases literal

/-- A truth value for every expression, by which connectives mean what Kleene's rules say.  All
other expressions may have any truth value. -/
structure Evaluation where
  truth : Expr → Truth
  truth_literal : truth Expr.truth = some true
  truth_conj : ∀ operands, truth (.conj operands) = Truth.all (operands.map truth)
  truth_disj : ∀ operands, truth (.disj operands) = Truth.any (operands.map truth)

namespace Evaluation

variable (evaluation : Evaluation)

/-- Building a conjunction keeps its meaning, whatever is simplified. -/
theorem truth_and (lhs rhs : Expr) :
    evaluation.truth (lhs.and rhs) = (evaluation.truth lhs).and (evaluation.truth rhs) := by
  unfold Expr.and
  split
  · next literal =>
      rw [Expr.eq_truth_of_isTrue literal, evaluation.truth_literal, Truth.true_and]
  · split
    · next literal =>
        rw [Expr.eq_truth_of_isTrue literal, evaluation.truth_literal, Truth.and_true]
    · split <;> simp [evaluation.truth_conj]

/-- Building a disjunction keeps its meaning. -/
theorem truth_or (lhs rhs : Expr) :
    evaluation.truth (lhs.or rhs) = (evaluation.truth lhs).or (evaluation.truth rhs) := by
  unfold Expr.or
  split <;> simp [evaluation.truth_disj]

/-- The conjunction of a list means that all of its members hold. -/
theorem truth_all (operands : List Expr) :
    evaluation.truth (.all operands) = Truth.all (operands.map evaluation.truth) := by
  match operands with
  | [] => simp [evaluation.truth_literal]
  | [_] => simp
  | _ :: _ :: _ => rw [Expr.all_cons_cons, evaluation.truth_conj]

end Evaluation

/-- The truth value that a value stands for. -/
def Value.truth : Value → Truth
  | .bool value => some value
  | _ => none

/-- The value that stands for a truth value. -/
def Value.ofTruth : Truth → Value
  | some value => .bool value
  | none => .null

@[simp] theorem Value.truth_ofTruth (truth : Truth) : (Value.ofTruth truth).truth = truth := by
  rcases truth with _ | _ <;> rfl

/-! ## Evaluation -/

/-- What expressions are evaluated on. -/
structure Environment where
  /-- The values of rows: leave as many plans, take the table of an alias there, and its column. -/
  column : Nat → Alias → Nat → Value
  /-- How two values compare, if neither is `NULL`. -/
  compare : CompareOp → Value → Value → Bool
  /-- Whether a value matches a pattern. -/
  like : Value → String → Bool
  aggregate : AggregateFunction → Option Expr → Bool → Value
  /-- Whether a nested plan has a row. -/
  anyRow : Plan → Bool
  /-- Whether a value is among the rows of a nested plan. -/
  member : Value → Plan → Truth

namespace Environment

/-- How two values compare; with `NULL` it is unknown. -/
def compared (env : Environment) (op : CompareOp) (lhs rhs : Value) : Truth :=
  if lhs.isNull || rhs.isNull then none else some (env.compare op lhs rhs)

/-- Whether a value matches a pattern; of `NULL` it is unknown. -/
def liked (env : Environment) (operand : Value) (pattern : String) : Truth :=
  if operand.isNull then none else some (env.like operand pattern)

end Environment

/-- A truth value, or its negation. -/
def Truth.unless (negated : Bool) (truth : Truth) : Truth := if negated then truth.not else truth

mutual

/-- The value of an expression. -/
def Expr.eval (env : Environment) : Expr → Value
  | .value literal => literal
  | .column ref => env.column ref.nesting ref.table ref.column
  | .compare op lhs rhs => .ofTruth (env.compared op (lhs.eval env) (rhs.eval env))
  | .conj operands => .ofTruth (.all (Expr.truths env operands))
  | .disj operands => .ofTruth (.any (Expr.truths env operands))
  | .neg operand => .ofTruth (operand.eval env).truth.not
  | .inList operand items negated =>
      .ofTruth (.unless negated (.any (Expr.matches env (operand.eval env) items)))
  | .like operand pattern negated =>
      .ofTruth (.unless negated (env.liked (operand.eval env) pattern))
  | .isNull operand negated => .ofTruth (.unless negated (some (operand.eval env).isNull))
  | .aggregate function argument distinct => env.aggregate function argument distinct
  | .cases branches otherwise => Branch.choose env branches (otherwise.eval env)
  | .anyRow plan negated => .ofTruth (.unless negated (some (env.anyRow plan)))
  | .inQuery operand plan negated =>
      .ofTruth (.unless negated (env.member (operand.eval env) plan))

/-- The truth values of expressions, in order. -/
def Expr.truths (env : Environment) : List Expr → List Truth
  | [] => []
  | expr :: rest => (expr.eval env).truth :: Expr.truths env rest

/-- How a value compares with the values of expressions, in order. -/
def Expr.matches (env : Environment) (operand : Value) : List Expr → List Truth
  | [] => []
  | item :: rest => env.compared .eq operand (item.eval env) :: Expr.matches env operand rest

/-- The result of the first branch whose condition is true, or else the given value. -/
def Branch.choose (env : Environment) : List Branch → Value → Value
  | [], otherwise => otherwise
  | ⟨condition, result⟩ :: rest, otherwise =>
      if (condition.eval env).truth = some true then result.eval env
      else Branch.choose env rest otherwise

end

namespace Environment

/-- The truth value of a condition. -/
def truth (env : Environment) (condition : Expr) : Truth := (condition.eval env).truth

private theorem truths_eq_map (env : Environment) (conditions : List Expr) :
    Expr.truths env conditions = conditions.map env.truth := by
  induction conditions with
  | nil => simp [Expr.truths]
  | cons condition rest ih => rw [Expr.truths, ih, List.map_cons, truth]

@[simp] theorem truth_conj (env : Environment) (operands : List Expr) :
    env.truth (.conj operands) = Truth.all (operands.map env.truth) := by
  rw [truth, Expr.eval, Value.truth_ofTruth, truths_eq_map]

@[simp] theorem truth_literal (env : Environment) : env.truth Expr.truth = some true := by
  rw [truth, Expr.truth, Expr.eval, Value.truth]

@[simp] theorem truth_disj (env : Environment) (operands : List Expr) :
    env.truth (.disj operands) = Truth.any (operands.map env.truth) := by
  rw [truth, Expr.eval, Value.truth_ofTruth, truths_eq_map]

/-- The truth values of all conditions. -/
def evaluation (env : Environment) : Evaluation where
  truth := env.truth
  truth_literal := env.truth_literal
  truth_conj := env.truth_conj
  truth_disj := env.truth_disj

theorem truth_and (env : Environment) (lhs rhs : Expr) :
    env.truth (lhs.and rhs) = (env.truth lhs).and (env.truth rhs) :=
  env.evaluation.truth_and lhs rhs

theorem truth_all (env : Environment) (operands : List Expr) :
    env.truth (.all operands) = Truth.all (operands.map env.truth) :=
  env.evaluation.truth_all operands

end Environment

/-! ## Rows marked as deleted -/

/-- Whether the row of a table of an entity is not marked as deleted.  A row without a mark never
is; of a mark that is `NULL` where it should be a truth value it is unknown. -/
def Entity.rowAlive (entity : Entity) (env : Environment) (table : Alias) : Truth :=
  match entity.logicalDelete, entity.deleteMarkIndex? with
  | some mark, some index =>
      match mark.strategy with
      | .boolean => env.compared .eq (env.column 0 table index) (.bool false)
      | .timestamp => some (env.column 0 table index).isNull
  | _, _ => some true

/-- The condition that keeps deleted rows out means that the row is not marked. -/
theorem Entity.truth_alive (entity : Entity) (env : Environment) (table : Alias) :
    Truth.all ((entity.alive? table).toList.map env.truth) = entity.rowAlive env table := by
  unfold alive? rowAlive deleteMarkIndex?
  -- a table without a mark, or with one that is no column, has no deleted rows
  cases entity.logicalDelete with
  | none => rfl
  | some mark =>
      simp only [Option.bind_some]
      cases entity.columnIndex? mark.column with
      | none => rfl
      | some index =>
          cases hstrategy : mark.strategy with
          | boolean =>
              simp [hstrategy, DeleteStrategy.alive, Expr.equals, Environment.truth, Expr.eval,
                ColumnRef.local]
          | timestamp =>
              simp [hstrategy, DeleteStrategy.alive, Environment.truth, Expr.eval, ColumnRef.local,
                Truth.unless]

end TrackedQuery
