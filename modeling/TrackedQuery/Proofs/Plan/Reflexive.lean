import TrackedQuery.Proofs.Plan.Pairs
import TrackedQuery.Proofs.Tracking.Identity
import TrackedQuery.Proofs.Value.Types

/-!
# Which expressions are the same as themselves

Structural equality compares literals as numbers.  So an expression is the same as itself unless
there is a NaN in it, however deep: in a list, in the argument of an aggregate, or in a nested plan
(`same_self_iff`).  One with a NaN is not the same as any other expression either
(`same_right_of_same`).

## Strategy

Lists are compared member by member, so that a list is the same as itself if its members are
(`self_of_memberwise`), and a plan is if its parts are (`Plan.same_self_iff`).  What is left is one
case for each kind of node: its parts are compared with themselves, and there is a NaN in it if
there is one in a part.
-/

namespace TrackedQuery

/-! ## Literals without a NaN -/

/-- No literal among the expressions has a NaN in it. -/
def NoNaNAmong (exprs : List Expr) : Prop :=
  ∀ expr ∈ exprs, ∀ literal, expr.value? = some literal → literal.NoNaN

/-- No literal in the expression has a NaN in it, also in nested plans. -/
def Expr.NoNaN (expr : Expr) : Prop := NoNaNAmong expr.postorder

/-- No literal in the plan has a NaN in it. -/
def Plan.NoNaN (plan : Plan) : Prop := NoNaNAmong plan.postorder

@[simp] theorem noNaNAmong_nil : NoNaNAmong [] := List.forall_mem_nil _

@[simp] theorem noNaNAmong_append (left right : List Expr) :
    NoNaNAmong (left ++ right) ↔ NoNaNAmong left ∧ NoNaNAmong right :=
  List.forall_mem_append

@[simp] theorem noNaNAmong_singleton (expr : Expr) :
    NoNaNAmong [expr] ↔ ∀ literal, expr.value? = some literal → literal.NoNaN :=
  List.forall_mem_singleton

/-! ## Lists that are the same as themselves -/

/-- A list that is compared member by member is the same as itself if its members are. -/
theorem self_of_memberwise {α : Type} {same : α → α → Bool} {sameAll : List α → List α → Bool}
    (nil : sameAll [] [] = true)
    (step : ∀ left lefts right rights,
      sameAll (left :: lefts) (right :: rights) = (same left right && sameAll lefts rights))
    (members : List α) :
    sameAll members members = true ↔ ∀ member ∈ members, same member member = true := by
  induction members with
  | nil => simp [nil]
  | cons first rest ih => rw [step, Bool.and_eq_true, ih, List.forall_mem_cons]

theorem Expr.sameAll_self_iff (exprs : List Expr) :
    Expr.sameAll exprs exprs = true ↔ ∀ expr ∈ exprs, expr.same expr = true :=
  self_of_memberwise (by rw [sameAll]) (fun _ _ _ _ => by rw [sameAll]) exprs

theorem Branch.sameAll_self_iff (branches : List Branch) :
    Branch.sameAll branches branches = true ↔ ∀ branch ∈ branches, branch.same branch = true :=
  self_of_memberwise (by rw [sameAll]) (fun _ _ _ _ => by rw [sameAll]) branches

theorem Item.sameAll_self_iff (items : List Item) :
    Item.sameAll items items = true ↔ ∀ item ∈ items, item.same item = true :=
  self_of_memberwise (by rw [sameAll]) (fun _ _ _ _ => by rw [sameAll]) items

theorem SortKey.sameAll_self_iff (keys : List SortKey) :
    SortKey.sameAll keys keys = true ↔ ∀ key ∈ keys, key.same key = true :=
  self_of_memberwise (by rw [sameAll]) (fun _ _ _ _ => by rw [sameAll]) keys

theorem Join.sameAll_self_iff (joins : List Join) :
    Join.sameAll joins joins = true ↔ ∀ join ∈ joins, join.same join = true :=
  self_of_memberwise (by rw [sameAll]) (fun _ _ _ _ => by rw [sameAll]) joins

theorem Arm.sameAll_self_iff (arms : List Arm) :
    Arm.sameAll arms arms = true ↔ ∀ arm ∈ arms, arm.same arm = true :=
  self_of_memberwise (by rw [sameAll]) (fun _ _ _ _ => by rw [sameAll]) arms

theorem Expr.sameOption_self_iff (option : Option Expr) :
    Expr.sameOption option option = true ↔ ∀ expr ∈ option, expr.same expr = true := by
  cases option <;> simp [sameOption]

theorem Plan.sameOption_self_iff (option : Option Plan) :
    Plan.sameOption option option = true ↔ ∀ plan ∈ option, plan.same plan = true := by
  cases option <;> simp [sameOption]

/-! ## Parts that are the same as themselves -/

private theorem ColumnRef.same_self (ref : ColumnRef) :
    ref.same ref = true := by simp [ColumnRef.same]

private theorem Source.same_self (source : Source) :
    source.same source = true := by simp [Source.same]

theorem Branch.same_self_iff (branch : Branch) : branch.same branch = true ↔
    branch.condition.same branch.condition = true ∧ branch.result.same branch.result = true := by
  cases branch
  rw [Branch.same, Bool.and_eq_true]

theorem Item.same_self_iff (item : Item) :
    item.same item = true ↔ item.expr.same item.expr = true := by
  cases item
  rw [Item.same, Ty.same_self, Bool.and_true]

theorem SortKey.same_self_iff (key : SortKey) :
    key.same key = true ↔ key.expr.same key.expr = true := by
  cases key
  simp [SortKey.same]

theorem Arm.same_self_iff (arm : Arm) : arm.same arm = true ↔ arm.plan.same arm.plan = true := by
  cases arm
  simp [Arm.same]

theorem Join.same_self_iff (join : Join) : join.same join = true ↔
    join.condition.same join.condition = true ∧
      ∀ plan ∈ join.rows, plan.same plan = true := by
  cases join
  simp [Join.same, Plan.sameOption_self_iff]

theorem Plan.same_self_iff (plan : Plan) : plan.same plan = true ↔
    plan.Parts (fun expr => expr.same expr = true) (fun nested => nested.same nested = true) := by
  cases plan
  simp only [Plan.same, Bool.and_eq_true, Source.same_self, beq_self_eq_true, true_and, and_true,
    Join.sameAll_self_iff, Join.same_self_iff, Expr.sameOption_self_iff, Item.sameAll_self_iff,
    Item.same_self_iff, Expr.sameAll_self_iff, SortKey.sameAll_self_iff, SortKey.same_self_iff,
    Arm.sameAll_self_iff, Arm.same_self_iff]
  constructor
  · rintro ⟨⟨⟨⟨⟨⟨joins, filter⟩, projection⟩, groupBy⟩, having⟩, orderBy⟩, arms⟩
    exact ⟨fun join mem => (joins join mem).1, fun join mem => (joins join mem).2, filter,
      projection, groupBy, having, orderBy, arms⟩
  · intro parts
    exact ⟨⟨⟨⟨⟨⟨fun join mem => ⟨parts.conditions join mem, parts.rows join mem⟩, parts.filter⟩,
      parts.projection⟩, parts.groupBy⟩, parts.having⟩, parts.orderBy⟩, parts.arms⟩

/-! ## Parts without a NaN -/

/-- There is no NaN in a list of parts if there is none in each part. -/
theorem noNaNAmong_members {α : Type} {postorder : α → List Expr}
    {postorderAll : List α → List Expr} {free : α → Prop} (nil : postorderAll [] = [])
    (cons : ∀ first rest, postorderAll (first :: rest) = postorder first ++ postorderAll rest)
    (each : ∀ member, NoNaNAmong (postorder member) ↔ free member) (members : List α) :
    NoNaNAmong (postorderAll members) ↔ ∀ member ∈ members, free member := by
  induction members with
  | nil => simp [nil]
  | cons first rest ih => rw [cons, noNaNAmong_append, each, ih, List.forall_mem_cons]

theorem Expr.noNaNAmong_all (exprs : List Expr) :
    NoNaNAmong (Expr.postorderAll exprs) ↔ ∀ expr ∈ exprs, expr.NoNaN :=
  noNaNAmong_members (by rw [postorderAll]) (fun _ _ => by rw [postorderAll])
    (fun _ => Iff.rfl) exprs

private theorem Expr.noNaNAmong_option (option : Option Expr) :
    NoNaNAmong (Expr.postorderOption option) ↔ ∀ expr ∈ option, expr.NoNaN := by
  cases option <;> simp [postorderOption, NoNaN]

private theorem Plan.noNaNAmong_option (option : Option Plan) :
    NoNaNAmong (Plan.postorderOption option) ↔ ∀ plan ∈ option, plan.NoNaN := by
  cases option <;> simp [postorderOption, NoNaN]

theorem Branch.noNaNAmong_all (branches : List Branch) :
    NoNaNAmong (Branch.postorderAll branches) ↔
      ∀ branch ∈ branches, branch.condition.NoNaN ∧ branch.result.NoNaN := by
  refine noNaNAmong_members (by rw [postorderAll]) (fun _ _ => by rw [postorderAll]) ?_ branches
  rintro ⟨condition, result⟩
  rw [postorder, noNaNAmong_append]
  rfl

theorem Item.noNaNAmong_all (items : List Item) :
    NoNaNAmong (Item.postorderAll items) ↔ ∀ item ∈ items, item.expr.NoNaN := by
  refine noNaNAmong_members (by rw [postorderAll]) (fun _ _ => by rw [postorderAll]) ?_ items
  rintro ⟨expr, ty⟩
  rw [postorder]
  rfl

theorem SortKey.noNaNAmong_all (keys : List SortKey) :
    NoNaNAmong (SortKey.postorderAll keys) ↔ ∀ key ∈ keys, key.expr.NoNaN := by
  refine noNaNAmong_members (by rw [postorderAll]) (fun _ _ => by rw [postorderAll]) ?_ keys
  rintro ⟨expr, direction⟩
  rw [postorder]
  rfl

theorem Join.noNaNAmong_all (joins : List Join) :
    NoNaNAmong (Join.postorderAll joins) ↔
      ∀ join ∈ joins, (∀ plan ∈ join.rows, plan.NoNaN) ∧ join.condition.NoNaN := by
  refine noNaNAmong_members (by rw [postorderAll]) (fun _ _ => by rw [postorderAll]) ?_ joins
  rintro ⟨kind, tableAlias, entity, table, condition, origin, rows⟩
  rw [postorder, noNaNAmong_append, Plan.noNaNAmong_option]
  rfl

theorem Arm.noNaNAmong_all (arms : List Arm) :
    NoNaNAmong (Arm.postorderAll arms) ↔ ∀ arm ∈ arms, arm.plan.NoNaN := by
  refine noNaNAmong_members (by rw [postorderAll]) (fun _ _ => by rw [postorderAll]) ?_ arms
  rintro ⟨op, plan⟩
  rw [postorder]
  rfl

private theorem Plan.noNaN_iff (plan : Plan) : plan.NoNaN ↔ plan.Parts Expr.NoNaN Plan.NoNaN := by
  cases plan
  simp only [NoNaN, Plan.postorder, noNaNAmong_append, Join.noNaNAmong_all,
    Expr.noNaNAmong_option, Item.noNaNAmong_all, Expr.noNaNAmong_all, SortKey.noNaNAmong_all,
    Arm.noNaNAmong_all]
  constructor
  · rintro ⟨⟨⟨⟨⟨⟨joins, filter⟩, projection⟩, groupBy⟩, having⟩, orderBy⟩, arms⟩
    exact ⟨fun join mem => (joins join mem).2, fun join mem => (joins join mem).1, filter,
      projection, groupBy, having, orderBy, arms⟩
  · intro parts
    exact ⟨⟨⟨⟨⟨⟨fun join mem => ⟨parts.rows join mem, parts.conditions join mem⟩, parts.filter⟩,
      parts.projection⟩, parts.groupBy⟩, parts.having⟩, parts.orderBy⟩, parts.arms⟩

/-- A node that is no literal adds nothing to its parts. -/
theorem noNaNAmong_node {node : Expr} (other : node.value? = none) (parts : List Expr) :
    NoNaNAmong (parts ++ [node]) ↔ NoNaNAmong parts := by
  rw [noNaNAmong_append, noNaNAmong_singleton, other]
  simp

/-! ## What is the same as itself -/

/-- Expressions and plans are the same as themselves exactly if there is no NaN in them. -/
theorem same_self_iff :
    NestedInduction (fun expr => expr.same expr = true ↔ expr.NoNaN)
      (fun plan => plan.same plan = true ↔ plan.NoNaN) where
  -- only here does equality fail: the other nodes pass on what their parts say
  value literal := by
    rw [Expr.same, Value.equal_self_iff, Expr.NoNaN, Expr.postorder, noNaNAmong_singleton]
    simp [Expr.value?]
  column ref := by
    rw [Expr.same, Expr.NoNaN, Expr.postorder, noNaNAmong_singleton]
    simp [ColumnRef.same_self, Expr.value?]
  compare op lhs rhs left right := by
    rw [Expr.NoNaN, Expr.postorder, noNaNAmong_node rfl, noNaNAmong_append]
    simp only [Expr.same, beq_self_eq_true, Bool.and_true, Bool.and_eq_true]
    exact and_congr left right
  conj operands each := by
    rw [Expr.NoNaN, Expr.postorder, noNaNAmong_node rfl, Expr.noNaNAmong_all, Expr.same,
      Expr.sameAll_self_iff]
    exact forall₂_congr each
  disj operands each := by
    rw [Expr.NoNaN, Expr.postorder, noNaNAmong_node rfl, Expr.noNaNAmong_all, Expr.same,
      Expr.sameAll_self_iff]
    exact forall₂_congr each
  neg operand alike := by
    rw [Expr.NoNaN, Expr.postorder, noNaNAmong_node rfl, Expr.same]
    exact alike
  inList operand items negated alike each := by
    rw [Expr.NoNaN, Expr.postorder, noNaNAmong_node rfl, noNaNAmong_append, Expr.noNaNAmong_all]
    simp only [Expr.same, beq_self_eq_true, Bool.and_true, Bool.and_eq_true,
      Expr.sameAll_self_iff]
    exact and_congr alike (forall₂_congr each)
  like operand pattern negated alike := by
    rw [Expr.NoNaN, Expr.postorder, noNaNAmong_node rfl]
    simp only [Expr.same, beq_self_eq_true, Bool.and_true]
    exact alike
  isNull operand negated alike := by
    rw [Expr.NoNaN, Expr.postorder, noNaNAmong_node rfl]
    simp only [Expr.same, beq_self_eq_true, Bool.and_true]
    exact alike
  aggregate function argument distinct each := by
    rw [Expr.NoNaN, Expr.postorder, noNaNAmong_node rfl, Expr.noNaNAmong_option]
    simp only [Expr.same, beq_self_eq_true, Bool.and_true, Bool.true_and,
      Expr.sameOption_self_iff]
    exact forall₂_congr each
  cases branches otherwise each alike := by
    rw [Expr.NoNaN, Expr.postorder, noNaNAmong_node rfl, noNaNAmong_append,
      Branch.noNaNAmong_all]
    simp only [Expr.same, Bool.and_eq_true, Branch.sameAll_self_iff, Branch.same_self_iff]
    exact and_congr (forall₂_congr fun branch mem => and_congr (each branch mem).1
      (each branch mem).2) alike
  anyRow plan negated alike := by
    rw [Expr.NoNaN, Expr.postorder, noNaNAmong_node rfl]
    simp only [Expr.same, beq_self_eq_true, Bool.and_true]
    exact alike
  inQuery operand plan negated alike alike' := by
    rw [Expr.NoNaN, Expr.postorder, noNaNAmong_node rfl, noNaNAmong_append]
    simp only [Expr.same, beq_self_eq_true, Bool.and_true, Bool.and_eq_true]
    exact and_congr alike alike'
  plan plan parts := by
    rw [Plan.same_self_iff, Plan.noNaN_iff]
    constructor
    · intro same
      exact parts.combine same (fun _ alike => alike.mp) fun _ alike => alike.mp
    · intro free
      exact parts.combine free (fun _ alike => alike.mpr) fun _ alike => alike.mpr

/-! ## What is the same as something -/

/-- What holds of the right side of every pair holds of all members of the list on the right. -/
theorem forall_right_of_forall₂ {α : Type} {on : α → Prop} {lefts rights : List α}
    (all : List.Forall₂ (fun _ right => on right) lefts rights) : ∀ right ∈ rights, on right := by
  induction all with
  | nil => exact List.forall_mem_nil _
  | cons first _ ih => exact List.forall_mem_cons.mpr ⟨first, ih⟩

private theorem forall_right_of_rel {α : Type} {on : α → Prop} {left right : Option α}
    (both : Option.Rel (fun _ right => on right) left right) : ∀ member ∈ right, on member := by
  rintro member rfl
  cases both with
  | some here => exact here

/-- What an expression or a plan is the same as is the same as itself. -/
theorem same_right_of_same :
    SameInduction (fun _ right => right.same right = true) (fun _ right => right.same right = true)
    where
  value literal literal' same := by
    -- the literals are alike, so neither holds a NaN if the left one does not
    rw [Value.equal_iff] at same
    rw [Expr.same, Value.equal_self_iff]
    exact same.1.noNaN_iff.mp same.2
  column ref ref' _ := by rw [Expr.same, ColumnRef.same_self]
  compare op lhs rhs lhs' rhs' left right := by simp [Expr.same, left, right]
  conj operands operands' each := by
    rw [Expr.same, Expr.sameAll_self_iff]
    exact forall_right_of_forall₂ each
  disj operands operands' each := by
    rw [Expr.same, Expr.sameAll_self_iff]
    exact forall_right_of_forall₂ each
  neg operand operand' here := by rwa [Expr.same]
  inList operand items operand' items' negated here each := by
    have items := (Expr.sameAll_self_iff items').mpr (forall_right_of_forall₂ each)
    simp [Expr.same, here, items]
  like operand operand' pattern negated here := by simp [Expr.same, here]
  isNull operand operand' negated here := by simp [Expr.same, here]
  aggregate function argument argument' distinct _ here := by
    have argument := (Expr.sameOption_self_iff argument').mpr (forall_right_of_rel here)
    simp [Expr.same, argument]
  cases branches otherwise branches' otherwise' each here := by
    have parts : ∀ branch ∈ branches', branch.condition.same branch.condition = true ∧
        branch.result.same branch.result = true := forall_right_of_forall₂ each
    have members := (Branch.sameAll_self_iff branches').mpr fun branch mem =>
      (Branch.same_self_iff branch).mpr (parts branch mem)
    simp [Expr.same, here, members]
  anyRow plan plan' negated _ here := by simp [Expr.same, here]
  inQuery operand plan operand' plan' negated _ here nested := by simp [Expr.same, here, nested]
  plan left right parts := by
    have joins : ∀ join ∈ right.joins, join.condition.same join.condition = true ∧
        ∀ rows ∈ join.rows, rows.same rows = true :=
      forall_right_of_forall₂ (parts.joins.imp fun _ _ both =>
        ⟨both.1, forall_right_of_rel both.2⟩)
    exact (Plan.same_self_iff right).mpr {
      conditions := fun join mem => (joins join mem).1
      rows := fun join mem => (joins join mem).2
      filter := forall_right_of_rel parts.filter
      projection := forall_right_of_forall₂ parts.projection
      groupBy := forall_right_of_forall₂ parts.groupBy
      having := forall_right_of_rel parts.having
      orderBy := forall_right_of_forall₂ parts.orderBy
      arms := forall_right_of_forall₂ parts.arms }

end TrackedQuery
