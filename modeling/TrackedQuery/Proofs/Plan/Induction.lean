import Mathlib.Data.Option.Basic
import TrackedQuery.Plan.Walk

/-!
# Induction on plans and expressions

Plans and expressions contain each other through lists and options.  `Parts` says that a condition
holds of the expressions and the nested plans that a plan is made of, and `NestedInduction` has one
case for each kind of expression and one for plans.
-/

namespace TrackedQuery

/-! ## The parts of a plan -/

/-- Conditions on the expressions of a plan and on the plans nested in its joins and its arms. -/
structure Plan.Parts (onExpr : Expr → Prop) (onPlan : Plan → Prop) (plan : Plan) : Prop where
  conditions : ∀ join ∈ plan.joins, onExpr join.condition
  rows : ∀ join ∈ plan.joins, ∀ rows ∈ join.rows, onPlan rows
  filter : ∀ filter ∈ plan.filter, onExpr filter
  projection : ∀ item ∈ plan.projection, onExpr item.expr
  groupBy : ∀ key ∈ plan.groupBy, onExpr key
  having : ∀ having ∈ plan.having, onExpr having
  orderBy : ∀ key ∈ plan.orderBy, onExpr key.expr
  arms : ∀ arm ∈ plan.arms, onPlan arm.plan

/-- What follows for each part from two facts about it. -/
theorem Plan.Parts.combine {onExpr onExpr' onExpr'' : Expr → Prop}
    {onPlan onPlan' onPlan'' : Plan → Prop} {plan : Plan} (left : plan.Parts onExpr onPlan)
    (right : plan.Parts onExpr' onPlan')
    (exprs : ∀ expr, onExpr expr → onExpr' expr → onExpr'' expr)
    (plans : ∀ nested, onPlan nested → onPlan' nested → onPlan'' nested) :
    plan.Parts onExpr'' onPlan'' where
  conditions join mem := exprs _ (left.conditions join mem) (right.conditions join mem)
  rows join mem rows mem' := plans _ (left.rows join mem rows mem') (right.rows join mem rows mem')
  filter filter mem := exprs _ (left.filter filter mem) (right.filter filter mem)
  projection item mem := exprs _ (left.projection item mem) (right.projection item mem)
  groupBy key mem := exprs _ (left.groupBy key mem) (right.groupBy key mem)
  having having mem := exprs _ (left.having having mem) (right.having having mem)
  orderBy key mem := exprs _ (left.orderBy key mem) (right.orderBy key mem)
  arms arm mem := plans _ (left.arms arm mem) (right.arms arm mem)

/-! ## Induction -/

/-- The cases of an induction on expressions and plans. -/
structure NestedInduction (onExpr : Expr → Prop) (onPlan : Plan → Prop) : Prop where
  value : ∀ literal, onExpr (.value literal)
  column : ∀ ref, onExpr (.column ref)
  compare : ∀ op lhs rhs, onExpr lhs → onExpr rhs → onExpr (.compare op lhs rhs)
  conj : ∀ operands, (∀ operand ∈ operands, onExpr operand) → onExpr (.conj operands)
  disj : ∀ operands, (∀ operand ∈ operands, onExpr operand) → onExpr (.disj operands)
  neg : ∀ operand, onExpr operand → onExpr (.neg operand)
  inList : ∀ operand items negated, onExpr operand → (∀ item ∈ items, onExpr item) →
    onExpr (.inList operand items negated)
  like : ∀ operand pattern negated, onExpr operand → onExpr (.like operand pattern negated)
  isNull : ∀ operand negated, onExpr operand → onExpr (.isNull operand negated)
  aggregate : ∀ function argument distinct, (∀ operand ∈ argument, onExpr operand) →
    onExpr (.aggregate function argument distinct)
  cases : ∀ branches otherwise,
    (∀ branch ∈ branches, onExpr branch.condition ∧ onExpr branch.result) → onExpr otherwise →
    onExpr (.cases branches otherwise)
  anyRow : ∀ plan negated, onPlan plan → onExpr (.anyRow plan negated)
  inQuery : ∀ operand plan negated, onExpr operand → onPlan plan →
    onExpr (.inQuery operand plan negated)
  plan : ∀ plan : Plan, plan.Parts onExpr onPlan → onPlan plan

namespace NestedInduction

variable {onExpr : Expr → Prop} {onPlan : Plan → Prop}

mutual

theorem expr (induction : NestedInduction onExpr onPlan) : ∀ expr : Expr, onExpr expr
  | .value literal => induction.value literal
  | .column ref => induction.column ref
  | .compare op lhs rhs => induction.compare op lhs rhs (induction.expr lhs) (induction.expr rhs)
  | .conj operands => induction.conj operands (induction.exprs operands)
  | .disj operands => induction.disj operands (induction.exprs operands)
  | .neg operand => induction.neg operand (induction.expr operand)
  | .inList operand items negated =>
      induction.inList operand items negated (induction.expr operand) (induction.exprs items)
  | .like operand pattern negated =>
      induction.like operand pattern negated (induction.expr operand)
  | .isNull operand negated => induction.isNull operand negated (induction.expr operand)
  | .aggregate function argument distinct =>
      induction.aggregate function argument distinct (induction.option argument)
  | .cases branches otherwise =>
      induction.cases branches otherwise (induction.branches branches) (induction.expr otherwise)
  | .anyRow plan negated => induction.anyRow plan negated (induction.plans plan)
  | .inQuery operand plan negated =>
      induction.inQuery operand plan negated (induction.expr operand) (induction.plans plan)

theorem exprs (induction : NestedInduction onExpr onPlan) :
    ∀ exprs : List Expr, ∀ expr ∈ exprs, onExpr expr
  | [] => fun _ mem => absurd mem List.not_mem_nil
  | first :: rest =>
      List.forall_mem_cons.mpr ⟨induction.expr first, induction.exprs rest⟩

theorem option (induction : NestedInduction onExpr onPlan) :
    ∀ option : Option Expr, ∀ expr ∈ option, onExpr expr
  | none => fun _ mem => absurd mem (Option.not_mem_none _)
  | some expr => fun _ mem => Option.mem_some_iff.mp mem ▸ induction.expr expr

theorem branch (induction : NestedInduction onExpr onPlan) :
    ∀ branch : Branch, onExpr branch.condition ∧ onExpr branch.result
  | ⟨condition, result⟩ => ⟨induction.expr condition, induction.expr result⟩

theorem branches (induction : NestedInduction onExpr onPlan) :
    ∀ branches : List Branch, ∀ branch ∈ branches,
      onExpr branch.condition ∧ onExpr branch.result
  | [] => fun _ mem => absurd mem List.not_mem_nil
  | first :: rest =>
      List.forall_mem_cons.mpr ⟨induction.branch first, induction.branches rest⟩

theorem item (induction : NestedInduction onExpr onPlan) : ∀ item : Item, onExpr item.expr
  | ⟨expr, _⟩ => induction.expr expr

theorem items (induction : NestedInduction onExpr onPlan) :
    ∀ items : List Item, ∀ item ∈ items, onExpr item.expr
  | [] => fun _ mem => absurd mem List.not_mem_nil
  | first :: rest => List.forall_mem_cons.mpr ⟨induction.item first, induction.items rest⟩

theorem key (induction : NestedInduction onExpr onPlan) : ∀ key : SortKey, onExpr key.expr
  | ⟨expr, _⟩ => induction.expr expr

theorem keys (induction : NestedInduction onExpr onPlan) :
    ∀ keys : List SortKey, ∀ key ∈ keys, onExpr key.expr
  | [] => fun _ mem => absurd mem List.not_mem_nil
  | first :: rest => List.forall_mem_cons.mpr ⟨induction.key first, induction.keys rest⟩

theorem join (induction : NestedInduction onExpr onPlan) :
    ∀ join : Join, onExpr join.condition ∧ ∀ rows ∈ join.rows, onPlan rows
  | ⟨_, _, _, _, condition, _, rows⟩ => ⟨induction.expr condition, induction.rows rows⟩

theorem joins (induction : NestedInduction onExpr onPlan) :
    ∀ joins : List Join, ∀ join ∈ joins,
      onExpr join.condition ∧ ∀ rows ∈ join.rows, onPlan rows
  | [] => fun _ mem => absurd mem List.not_mem_nil
  | first :: rest => List.forall_mem_cons.mpr ⟨induction.join first, induction.joins rest⟩

theorem rows (induction : NestedInduction onExpr onPlan) :
    ∀ rows : Option Plan, ∀ plan ∈ rows, onPlan plan
  | none => fun _ mem => absurd mem (Option.not_mem_none _)
  | some plan => fun _ mem => Option.mem_some_iff.mp mem ▸ induction.plans plan

theorem arm (induction : NestedInduction onExpr onPlan) : ∀ arm : Arm, onPlan arm.plan
  | ⟨_, plan⟩ => induction.plans plan

theorem arms (induction : NestedInduction onExpr onPlan) :
    ∀ arms : List Arm, ∀ arm ∈ arms, onPlan arm.plan
  | [] => fun _ mem => absurd mem List.not_mem_nil
  | first :: rest => List.forall_mem_cons.mpr ⟨induction.arm first, induction.arms rest⟩

theorem plans (induction : NestedInduction onExpr onPlan) : ∀ plan : Plan, onPlan plan
  | ⟨source, joins, filter, projection, groupBy, having, orderBy, window, arms⟩ =>
      induction.plan ⟨source, joins, filter, projection, groupBy, having, orderBy, window, arms⟩
        { conditions := fun join mem => (induction.joins joins join mem).1
          rows := fun join mem => (induction.joins joins join mem).2
          filter := induction.option filter
          projection := induction.items projection
          groupBy := induction.exprs groupBy
          having := induction.option having
          orderBy := induction.keys orderBy
          arms := induction.arms arms }

end

end NestedInduction

end TrackedQuery
