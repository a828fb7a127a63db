import TrackedQuery.Proofs.Plan.Pairs
import TrackedQuery.Proofs.Plan.Truth
import TrackedQuery.Proofs.Value.Alike

/-!
# Expressions that are the same have alike values

Structural equality compares literals as numbers, so two expressions that are the same may still
differ in the sign of a zero.  What they evaluate to is alike all the same, if the database tells
neither alike values nor plans that are the same apart (`Environment.Regular.agree_of_same`).

## Strategy

Two expressions are evaluated in two environments that follow the same rules
(`Environment.SameRules`), and the values of a node are alike when those of its parts are: one lemma
for each kind of node.  The same lemmas serve one expression on two rows and two expressions on one
row.
-/

namespace TrackedQuery

/-! ## What a database does not tell apart -/

namespace Environment

/-- A database tells neither alike values apart nor expressions and plans that are the same. -/
structure Regular (env : Environment) : Prop where
  compare : ∀ (op : CompareOp) {lhs lhs' rhs rhs' : Value}, lhs.Alike lhs' → rhs.Alike rhs' →
    env.compare op lhs rhs = env.compare op lhs' rhs'
  like : ∀ (pattern : String) {operand operand' : Value}, operand.Alike operand' →
    env.like operand pattern = env.like operand' pattern
  aggregate : ∀ (function : AggregateFunction) (distinct : Bool) {argument argument' : Option Expr},
    Expr.sameOption argument argument' = true →
      (env.aggregate function argument distinct).Alike (env.aggregate function argument' distinct)
  anyRow : ∀ {plan plan' : Plan}, plan.same plan' = true → env.anyRow plan = env.anyRow plan'
  member : ∀ (plan : Plan) {value value' : Value}, value.Alike value' →
    env.member value plan = env.member value' plan
  memberOfSame : ∀ (value : Value) {plan plan' : Plan}, plan.same plan' = true →
    env.member value plan = env.member value plan'

/-- Two environments differ at most in the rows: in the values of columns, and in what nested plans
yield. -/
structure SameRules (env env' : Environment) : Prop where
  compare : env'.compare = env.compare
  like : env'.like = env.like
  aggregate : env'.aggregate = env.aggregate

theorem SameRules.refl (env : Environment) : env.SameRules env := ⟨rfl, rfl, rfl⟩

/-- The values of two expressions, each in its own environment, are alike. -/
def Agree (env env' : Environment) (expr expr' : Expr) : Prop :=
  (expr.eval env).Alike (expr'.eval env')

/-! ## One lemma for each kind of node -/

variable {env env' : Environment}

private theorem Regular.compared (regular : env.Regular) (rules : env.SameRules env')
    (op : CompareOp) {lhs lhs' rhs rhs' : Value} (left : lhs.Alike lhs') (right : rhs.Alike rhs') :
    env.compared op lhs rhs = env'.compared op lhs' rhs' := by
  unfold Environment.compared
  rw [left.isNull_eq, right.isNull_eq, regular.compare op left right, rules.compare]

private theorem Regular.liked (regular : env.Regular) (rules : env.SameRules env')
    (pattern : String) {operand operand' : Value} (alike : operand.Alike operand') :
    env.liked operand pattern = env'.liked operand' pattern := by
  unfold Environment.liked
  rw [alike.isNull_eq, regular.like pattern alike, rules.like]

private theorem truth_canonical (value : Value) : value.canonical.truth = value.truth := by
  cases value <;> rfl

theorem Agree.truth {expr expr' : Expr} (agree : env.Agree env' expr expr') :
    (expr.eval env).truth = (expr'.eval env').truth := by
  rw [← truth_canonical, ← truth_canonical (expr'.eval env'), agree]

private theorem truths_eq {operands operands' : List Expr}
    (agree : List.Forall₂ (env.Agree env') operands operands') :
    Expr.truths env operands = Expr.truths env' operands' := by
  induction agree with
  | nil => rfl
  | cons first _ ih => rw [Expr.truths, Expr.truths, first.truth, ih]

private theorem Regular.matches_eq (regular : env.Regular) (rules : env.SameRules env')
    {operand operand' : Value} (alike : operand.Alike operand') {items items' : List Expr}
    (agree : List.Forall₂ (env.Agree env') items items') :
    Expr.matches env operand items = Expr.matches env' operand' items' := by
  induction agree with
  | nil => rfl
  | cons first _ ih => rw [Expr.matches, Expr.matches, regular.compared rules .eq alike first, ih]

/-- Both parts of two branches agree. -/
def AgreeOn (env env' : Environment) (branch branch' : Branch) : Prop :=
  env.Agree env' branch.condition branch'.condition ∧ env.Agree env' branch.result branch'.result

private theorem alike_choose {branches branches' : List Branch}
    (agree : List.Forall₂ (env.AgreeOn env') branches branches') {otherwise otherwise' : Value}
    (alike : otherwise.Alike otherwise') :
    (Branch.choose env branches otherwise).Alike (Branch.choose env' branches' otherwise') := by
  induction agree with
  | nil => exact alike
  | @cons branch branch' _ _ first _ ih =>
      obtain ⟨condition, result⟩ := branch
      obtain ⟨condition', result'⟩ := branch'
      obtain ⟨holds, yields⟩ := first
      rw [Branch.choose, Branch.choose, holds.truth]
      split
      · exact yields
      · exact ih

namespace Agree

variable {expr expr' lhs lhs' rhs rhs' operand operand' : Expr}

theorem compare (regular : env.Regular) (rules : env.SameRules env') (op : CompareOp)
    (left : env.Agree env' lhs lhs') (right : env.Agree env' rhs rhs') :
    env.Agree env' (.compare op lhs rhs) (.compare op lhs' rhs') := by
  rw [Agree, Expr.eval, Expr.eval, regular.compared rules op left right]
  exact .refl _

theorem conj {operands operands' : List Expr}
    (agree : List.Forall₂ (env.Agree env') operands operands') :
    env.Agree env' (.conj operands) (.conj operands') := by
  rw [Agree, Expr.eval, Expr.eval, truths_eq agree]
  exact .refl _

theorem disj {operands operands' : List Expr}
    (agree : List.Forall₂ (env.Agree env') operands operands') :
    env.Agree env' (.disj operands) (.disj operands') := by
  rw [Agree, Expr.eval, Expr.eval, truths_eq agree]
  exact .refl _

theorem neg (agree : env.Agree env' operand operand') :
    env.Agree env' (.neg operand) (.neg operand') := by
  rw [Agree, Expr.eval, Expr.eval, agree.truth]
  exact .refl _

theorem inList (regular : env.Regular) (rules : env.SameRules env') (negated : Bool)
    (agree : env.Agree env' operand operand') {items items' : List Expr}
    (each : List.Forall₂ (env.Agree env') items items') :
    env.Agree env' (.inList operand items negated) (.inList operand' items' negated) := by
  rw [Agree, Expr.eval, Expr.eval, regular.matches_eq rules agree each]
  exact .refl _

theorem like (regular : env.Regular) (rules : env.SameRules env') (pattern : String)
    (negated : Bool) (agree : env.Agree env' operand operand') :
    env.Agree env' (.like operand pattern negated) (.like operand' pattern negated) := by
  rw [Agree, Expr.eval, Expr.eval, regular.liked rules pattern agree]
  exact .refl _

theorem isNull (negated : Bool) (agree : env.Agree env' operand operand') :
    env.Agree env' (.isNull operand negated) (.isNull operand' negated) := by
  rw [Agree, Expr.eval, Expr.eval, Value.Alike.isNull_eq agree]
  exact .refl _

theorem cases {branches branches' : List Branch} {otherwise otherwise' : Expr}
    (each : List.Forall₂ (env.AgreeOn env') branches branches')
    (agree : env.Agree env' otherwise otherwise') :
    env.Agree env' (.cases branches otherwise) (.cases branches' otherwise') := by
  rw [Agree, Expr.eval, Expr.eval]
  exact alike_choose each agree

theorem anyRow {plan plan' : Plan} (negated : Bool) (same : env.anyRow plan = env'.anyRow plan') :
    env.Agree env' (.anyRow plan negated) (.anyRow plan' negated) := by
  rw [Agree, Expr.eval, Expr.eval, same]
  exact .refl _

theorem inQuery {plan plan' : Plan} (negated : Bool)
    (same : env.member (operand.eval env) plan = env'.member (operand'.eval env') plan') :
    env.Agree env' (.inQuery operand plan negated) (.inQuery operand' plan' negated) := by
  rw [Agree, Expr.eval, Expr.eval, same]
  exact .refl _

end Agree

end Environment

/-! ## Expressions that are the same -/

namespace Environment

variable {env : Environment}

/-- Two expressions that are the same have alike values. -/
theorem Regular.agree_of_same (regular : env.Regular) :
    SameInduction (env.Agree env) (fun _ _ => True) where
  value literal literal' same := by
    rw [Agree, Expr.eval, Expr.eval]
    exact Value.alike_of_equal same
  column ref ref' same := by
    simp only [ColumnRef.same, Bool.and_eq_true, beq_iff_eq] at same
    rw [Agree, Expr.eval, Expr.eval, same.1.1, same.1.2, same.2]
    exact .refl _
  compare op lhs rhs lhs' rhs' left right := .compare regular (.refl env) op left right
  conj operands operands' each := .conj each
  disj operands operands' each := .disj each
  neg operand operand' agree := .neg agree
  inList operand items operand' items' negated agree each :=
    .inList regular (.refl env) negated agree each
  like operand operand' pattern negated agree := .like regular (.refl env) pattern negated agree
  isNull operand operand' negated agree := .isNull negated agree
  -- aggregates and nested plans are left to the database, which does not tell them apart
  aggregate function argument argument' distinct same _ := by
    rw [Agree, Expr.eval, Expr.eval]
    exact regular.aggregate function distinct same
  cases branches otherwise branches' otherwise' each agree := .cases each agree
  anyRow plan plan' negated same _ := .anyRow negated (regular.anyRow same)
  inQuery operand plan operand' plan' negated same agree _ := by
    refine .inQuery negated ?_
    rw [regular.member plan agree, regular.memberOfSame _ same]
  plan _ _ _ := trivial

end Environment

end TrackedQuery
