import Mathlib.Data.List.Forall2
import TrackedQuery.Plan.Same
import TrackedQuery.Proofs.Plan.Induction

/-!
# Induction on expressions and plans that are the same

Two expressions that are the same are nodes of one kind with parts that are the same.  So a relation
holds of all of them if it holds of two nodes of one kind whenever it holds of their parts, pair by
pair: `SameInduction` has one case for each kind of node, and none for two nodes of different kinds.

## Strategy

Lists and options are compared member by member (`forall₂_of_memberwise`, `rel_of_optionwise`).  The
induction is on the left side (`SameInduction.onLeft`).  The right side is of the same kind, because
otherwise the two would not be the same, and this is said here once for all relations.
-/

namespace TrackedQuery

/-! ## Lists and options that are the same -/

section Members

variable {α : Type} {same : α → α → Bool}

/-- A test of two lists that tests member by member, and wants them to be of one length. -/
theorem forall₂_of_memberwise {sameAll : List α → List α → Bool}
    (longer : ∀ right rights, sameAll [] (right :: rights) = false)
    (shorter : ∀ left lefts, sameAll (left :: lefts) [] = false)
    (step : ∀ left lefts right rights,
      sameAll (left :: lefts) (right :: rights) = (same left right && sameAll lefts rights))
    {lefts rights : List α} (all : sameAll lefts rights = true) :
    List.Forall₂ (fun left right => same left right = true) lefts rights := by
  induction lefts generalizing rights with
  | nil =>
      cases rights with
      | nil => exact .nil
      | cons right rights => exact absurd all (by simp [longer])
  | cons left lefts ih =>
      cases rights with
      | nil => exact absurd all (by simp [shorter])
      | cons right rights =>
          rw [step, Bool.and_eq_true] at all
          exact .cons all.1 (ih all.2)

/-- A test of two options that tests what is in them, and wants both or neither of them to hold
something. -/
theorem rel_of_optionwise {sameOption : Option α → Option α → Bool}
    (more : ∀ right, sameOption none (some right) = false)
    (less : ∀ left, sameOption (some left) none = false)
    (step : ∀ left right, sameOption (some left) (some right) = same left right)
    {left right : Option α} (both : sameOption left right = true) :
    Option.Rel (fun left right => same left right = true) left right := by
  cases left with
  | none =>
      cases right with
      | none => exact .none
      | some right => exact absurd both (by simp [more])
  | some left =>
      cases right with
      | none => exact absurd both (by simp [less])
      | some right => exact .some (step left right ▸ both)

variable {related on : α → α → Prop}

/-- What follows for each pair of members from their relation. -/
theorem forall₂_of_mem {lefts rights : List α} (all : List.Forall₂ related lefts rights)
    (each : ∀ left ∈ lefts, ∀ right, related left right → on left right) :
    List.Forall₂ on lefts rights :=
  ((List.forall₂_and_left lefts rights).mpr ⟨each, all⟩).imp fun _ right both => both.1 right both.2

theorem rel_of_mem {left right : Option α} (both : Option.Rel related left right)
    (each : ∀ member ∈ left, ∀ right, related member right → on member right) :
    Option.Rel on left right := by
  cases both with
  | none => exact .none
  | some here => exact .some (each _ rfl _ here)

end Members

theorem Expr.forall₂_of_sameAll {lefts rights : List Expr}
    (same : Expr.sameAll lefts rights = true) :
    List.Forall₂ (fun left right => left.same right = true) lefts rights :=
  forall₂_of_memberwise (fun _ _ => by simp [sameAll]) (fun _ _ => by simp [sameAll])
    (fun _ _ _ _ => by rw [sameAll]) same

theorem Branch.forall₂_of_sameAll {lefts rights : List Branch}
    (same : Branch.sameAll lefts rights = true) :
    List.Forall₂ (fun left right => left.same right = true) lefts rights :=
  forall₂_of_memberwise (fun _ _ => by simp [sameAll]) (fun _ _ => by simp [sameAll])
    (fun _ _ _ _ => by rw [sameAll]) same

theorem Item.forall₂_of_sameAll {lefts rights : List Item}
    (same : Item.sameAll lefts rights = true) :
    List.Forall₂ (fun left right => left.same right = true) lefts rights :=
  forall₂_of_memberwise (fun _ _ => by simp [sameAll]) (fun _ _ => by simp [sameAll])
    (fun _ _ _ _ => by rw [sameAll]) same

theorem SortKey.forall₂_of_sameAll {lefts rights : List SortKey}
    (same : SortKey.sameAll lefts rights = true) :
    List.Forall₂ (fun left right => left.same right = true) lefts rights :=
  forall₂_of_memberwise (fun _ _ => by simp [sameAll]) (fun _ _ => by simp [sameAll])
    (fun _ _ _ _ => by rw [sameAll]) same

theorem Join.forall₂_of_sameAll {lefts rights : List Join}
    (same : Join.sameAll lefts rights = true) :
    List.Forall₂ (fun left right => left.same right = true) lefts rights :=
  forall₂_of_memberwise (fun _ _ => by simp [sameAll]) (fun _ _ => by simp [sameAll])
    (fun _ _ _ _ => by rw [sameAll]) same

theorem Arm.forall₂_of_sameAll {lefts rights : List Arm} (same : Arm.sameAll lefts rights = true) :
    List.Forall₂ (fun left right => left.same right = true) lefts rights :=
  forall₂_of_memberwise (fun _ _ => by simp [sameAll]) (fun _ _ => by simp [sameAll])
    (fun _ _ _ _ => by rw [sameAll]) same

theorem Expr.rel_of_sameOption {left right : Option Expr}
    (same : Expr.sameOption left right = true) :
    Option.Rel (fun left right => left.same right = true) left right :=
  rel_of_optionwise (fun _ => by simp [sameOption]) (fun _ => by simp [sameOption])
    (fun _ _ => by rw [sameOption]) same

theorem Plan.rel_of_sameOption {left right : Option Plan}
    (same : Plan.sameOption left right = true) :
    Option.Rel (fun left right => left.same right = true) left right :=
  rel_of_optionwise (fun _ => by simp [sameOption]) (fun _ => by simp [sameOption])
    (fun _ _ => by rw [sameOption]) same

/-! ## Parts of what is the same -/

theorem Branch.same_parts {left right : Branch} (same : left.same right = true) :
    left.condition.same right.condition = true ∧ left.result.same right.result = true := by
  cases left
  cases right
  rwa [Branch.same, Bool.and_eq_true] at same

theorem Item.same_expr {left right : Item} (same : left.same right = true) :
    left.expr.same right.expr = true := by
  cases left
  cases right
  rw [Item.same, Bool.and_eq_true] at same
  exact same.1

theorem SortKey.same_expr {left right : SortKey} (same : left.same right = true) :
    left.expr.same right.expr = true := by
  cases left
  cases right
  rw [SortKey.same, Bool.and_eq_true] at same
  exact same.1

theorem Arm.same_plan {left right : Arm} (same : left.same right = true) :
    left.plan.same right.plan = true := by
  cases left
  cases right
  rw [Arm.same, Bool.and_eq_true] at same
  exact same.2

theorem Join.same_parts {left right : Join} (same : left.same right = true) :
    left.condition.same right.condition = true ∧ Plan.sameOption left.rows right.rows = true := by
  cases left
  cases right
  simp only [Join.same, Bool.and_eq_true] at same
  exact ⟨same.1.1.2, same.2⟩

/-! ## Induction -/

/-- Relations between the expressions of two plans, and between the plans nested in their joins and
their arms, pair by pair. -/
structure Plan.PairedParts (onExprs : Expr → Expr → Prop) (onPlans : Plan → Plan → Prop)
    (left right : Plan) : Prop where
  joins : List.Forall₂ (fun join join' => onExprs join.condition join'.condition ∧
    Option.Rel onPlans join.rows join'.rows) left.joins right.joins
  filter : Option.Rel onExprs left.filter right.filter
  projection : List.Forall₂ (fun item item' => onExprs item.expr item'.expr)
    left.projection right.projection
  groupBy : List.Forall₂ onExprs left.groupBy right.groupBy
  having : Option.Rel onExprs left.having right.having
  orderBy : List.Forall₂ (fun key key' => onExprs key.expr key'.expr) left.orderBy right.orderBy
  arms : List.Forall₂ (fun arm arm' => onPlans arm.plan arm'.plan) left.arms right.arms

/-- The cases of an induction on expressions that are the same, and plans that are. -/
structure SameInduction (onExprs : Expr → Expr → Prop) (onPlans : Plan → Plan → Prop) : Prop where
  value : ∀ literal literal', literal.equal literal' = true →
    onExprs (.value literal) (.value literal')
  column : ∀ ref ref', ref.same ref' = true → onExprs (.column ref) (.column ref')
  compare : ∀ op lhs rhs lhs' rhs', onExprs lhs lhs' → onExprs rhs rhs' →
    onExprs (.compare op lhs rhs) (.compare op lhs' rhs')
  conj : ∀ operands operands', List.Forall₂ onExprs operands operands' →
    onExprs (.conj operands) (.conj operands')
  disj : ∀ operands operands', List.Forall₂ onExprs operands operands' →
    onExprs (.disj operands) (.disj operands')
  neg : ∀ operand operand', onExprs operand operand' → onExprs (.neg operand) (.neg operand')
  inList : ∀ operand items operand' items' negated, onExprs operand operand' →
    List.Forall₂ onExprs items items' →
    onExprs (.inList operand items negated) (.inList operand' items' negated)
  like : ∀ operand operand' pattern negated, onExprs operand operand' →
    onExprs (.like operand pattern negated) (.like operand' pattern negated)
  isNull : ∀ operand operand' negated, onExprs operand operand' →
    onExprs (.isNull operand negated) (.isNull operand' negated)
  aggregate : ∀ function argument argument' distinct, Expr.sameOption argument argument' = true →
    Option.Rel onExprs argument argument' →
    onExprs (.aggregate function argument distinct) (.aggregate function argument' distinct)
  cases : ∀ branches otherwise branches' otherwise',
    List.Forall₂ (fun branch branch' => onExprs branch.condition branch'.condition ∧
      onExprs branch.result branch'.result) branches branches' → onExprs otherwise otherwise' →
    onExprs (.cases branches otherwise) (.cases branches' otherwise')
  anyRow : ∀ plan plan' negated, plan.same plan' = true → onPlans plan plan' →
    onExprs (.anyRow plan negated) (.anyRow plan' negated)
  inQuery : ∀ operand plan operand' plan' negated, plan.same plan' = true →
    onExprs operand operand' → onPlans plan plan' →
    onExprs (.inQuery operand plan negated) (.inQuery operand' plan' negated)
  plan : ∀ left right : Plan, left.PairedParts onExprs onPlans right → onPlans left right

namespace SameInduction

variable {onExprs : Expr → Expr → Prop} {onPlans : Plan → Plan → Prop}

/-- The induction is on the left side, for all right sides that it is the same as. -/
theorem onLeft (induction : SameInduction onExprs onPlans) :
    NestedInduction (fun left => ∀ right, left.same right = true → onExprs left right)
      (fun left => ∀ right, left.same right = true → onPlans left right) where
  -- what differs in kind is not the same, so in each case one form of the right side is left
  value literal right same := by
    cases right with
    | value literal' =>
        rw [Expr.same] at same
        exact induction.value literal literal' same
    | _ => exact absurd same (by simp [Expr.same])
  column ref right same := by
    cases right with
    | column ref' =>
        rw [Expr.same] at same
        exact induction.column ref ref' same
    | _ => exact absurd same (by simp [Expr.same])
  compare op lhs rhs left right other same := by
    cases other with
    | compare op' lhs' rhs' =>
        simp only [Expr.same, Bool.and_eq_true, beq_iff_eq] at same
        obtain ⟨⟨sameLeft, rfl⟩, sameRight⟩ := same
        exact induction.compare op lhs rhs lhs' rhs' (left lhs' sameLeft) (right rhs' sameRight)
    | _ => exact absurd same (by simp [Expr.same])
  conj operands each right same := by
    cases right with
    | conj operands' =>
        rw [Expr.same] at same
        exact induction.conj operands operands'
          (forall₂_of_mem (Expr.forall₂_of_sameAll same) each)
    | _ => exact absurd same (by simp [Expr.same])
  disj operands each right same := by
    cases right with
    | disj operands' =>
        rw [Expr.same] at same
        exact induction.disj operands operands'
          (forall₂_of_mem (Expr.forall₂_of_sameAll same) each)
    | _ => exact absurd same (by simp [Expr.same])
  neg operand here right same := by
    cases right with
    | neg operand' =>
        rw [Expr.same] at same
        exact induction.neg operand operand' (here operand' same)
    | _ => exact absurd same (by simp [Expr.same])
  inList operand items negated here each right same := by
    cases right with
    | inList operand' items' negated' =>
        simp only [Expr.same, Bool.and_eq_true, beq_iff_eq] at same
        obtain ⟨⟨sameOperand, sameItems⟩, rfl⟩ := same
        exact induction.inList operand items operand' items' negated (here operand' sameOperand)
          (forall₂_of_mem (Expr.forall₂_of_sameAll sameItems) each)
    | _ => exact absurd same (by simp [Expr.same])
  like operand pattern negated here right same := by
    cases right with
    | like operand' pattern' negated' =>
        simp only [Expr.same, Bool.and_eq_true, beq_iff_eq] at same
        obtain ⟨⟨sameOperand, rfl⟩, rfl⟩ := same
        exact induction.like operand operand' pattern negated (here operand' sameOperand)
    | _ => exact absurd same (by simp [Expr.same])
  isNull operand negated here right same := by
    cases right with
    | isNull operand' negated' =>
        simp only [Expr.same, Bool.and_eq_true, beq_iff_eq] at same
        obtain ⟨sameOperand, rfl⟩ := same
        exact induction.isNull operand operand' negated (here operand' sameOperand)
    | _ => exact absurd same (by simp [Expr.same])
  aggregate function argument distinct each right same := by
    cases right with
    | aggregate function' argument' distinct' =>
        simp only [Expr.same, Bool.and_eq_true, beq_iff_eq] at same
        obtain ⟨⟨rfl, sameArgument⟩, rfl⟩ := same
        exact induction.aggregate function argument argument' distinct sameArgument
          (rel_of_mem (Expr.rel_of_sameOption sameArgument) each)
    | _ => exact absurd same (by simp [Expr.same])
  cases branches otherwise each here right same := by
    cases right with
    | cases branches' otherwise' =>
        simp only [Expr.same, Bool.and_eq_true] at same
        refine induction.cases branches otherwise branches' otherwise'
          (forall₂_of_mem (Branch.forall₂_of_sameAll same.1) fun branch mem branch' same => ?_)
          (here otherwise' same.2)
        obtain ⟨condition, result⟩ := Branch.same_parts same
        exact ⟨(each branch mem).1 _ condition, (each branch mem).2 _ result⟩
    | _ => exact absurd same (by simp [Expr.same])
  anyRow plan negated here right same := by
    cases right with
    | anyRow plan' negated' =>
        simp only [Expr.same, Bool.and_eq_true, beq_iff_eq] at same
        obtain ⟨samePlan, rfl⟩ := same
        exact induction.anyRow plan plan' negated samePlan (here plan' samePlan)
    | _ => exact absurd same (by simp [Expr.same])
  inQuery operand plan negated here nested right same := by
    cases right with
    | inQuery operand' plan' negated' =>
        simp only [Expr.same, Bool.and_eq_true, beq_iff_eq] at same
        obtain ⟨⟨sameOperand, samePlan⟩, rfl⟩ := same
        exact induction.inQuery operand plan operand' plan' negated samePlan
          (here operand' sameOperand) (nested plan' samePlan)
    | _ => exact absurd same (by simp [Expr.same])
  plan left parts right same := by
    refine induction.plan left right ?_
    cases left
    cases right
    simp only [Plan.same, Bool.and_eq_true] at same
    obtain ⟨⟨⟨⟨⟨⟨⟨⟨-, joins⟩, filter⟩, items⟩, groupBy⟩, having⟩, keys⟩, -⟩, arms⟩ := same
    refine {
      joins := forall₂_of_mem (Join.forall₂_of_sameAll joins) fun join mem join' same => ?_
      filter := rel_of_mem (Expr.rel_of_sameOption filter) parts.filter
      projection := forall₂_of_mem (Item.forall₂_of_sameAll items) fun item mem item' same =>
        parts.projection item mem _ (Item.same_expr same)
      groupBy := forall₂_of_mem (Expr.forall₂_of_sameAll groupBy) parts.groupBy
      having := rel_of_mem (Expr.rel_of_sameOption having) parts.having
      orderBy := forall₂_of_mem (SortKey.forall₂_of_sameAll keys) fun key mem key' same =>
        parts.orderBy key mem _ (SortKey.same_expr same)
      arms := forall₂_of_mem (Arm.forall₂_of_sameAll arms) fun arm mem arm' same =>
        parts.arms arm mem _ (Arm.same_plan same) }
    obtain ⟨condition, rows⟩ := Join.same_parts same
    exact ⟨parts.conditions join mem _ condition,
      rel_of_mem (Plan.rel_of_sameOption rows) (parts.rows join mem)⟩

theorem exprs (induction : SameInduction onExprs onPlans) {left right : Expr}
    (same : left.same right = true) : onExprs left right :=
  induction.onLeft.expr left right same

theorem plans (induction : SameInduction onExprs onPlans) {left right : Plan}
    (same : left.same right = true) : onPlans left right :=
  induction.onLeft.plans left right same

end SameInduction

end TrackedQuery
