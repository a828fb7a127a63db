import TrackedQuery.Proofs.Plan.Induction

/-!
# Every node of an expression

An expression is a tree of expressions.  What lies right below one is its operands, and for a
nested plan the outermost expressions of that plan: of its joins (the plans that stand in for
tables, and the conditions), its filter, projection, grouping keys, group filter, sort keys and
stacked plans.  A node has an address, which says at each step which of the expressions below is
meant (`Expr.nodeAt?`).

The walk `Expr.postorder` stops once at every address, and at no address before it has stopped at
those below it (`Expr.postorder_visits`).

## Strategy

The walk is a walk over what lies right below, and then the node itself (`Expr.postorder_eq`).  So
it is enough to put the stops in several trees one after another (`Traversal.forest`), which are
kept apart by the first step of their addresses.
-/

namespace TrackedQuery

/-! ## What lies right below an expression -/

mutual

/-- The expressions of a plan that are inside no other expression of it.  Those of the plans that
are joined to it or stacked on it are among them. -/
def Plan.outermost : Plan → List Expr
  | ⟨_, joins, filter, projection, groupBy, having, orderBy, _, arms⟩ =>
      Join.outermostAll joins ++ filter.toList ++ projection.map Item.expr ++ groupBy
        ++ having.toList ++ orderBy.map SortKey.expr ++ Arm.outermostAll arms

/-- The outermost expressions of the nested rows of a join, and its condition. -/
def Join.outermost : Join → List Expr
  | ⟨_, _, _, _, condition, _, rows⟩ => Plan.outermostOption rows ++ [condition]

/-- The outermost expressions of each join, in order. -/
def Join.outermostAll : List Join → List Expr
  | [] => []
  | join :: rest => join.outermost ++ Join.outermostAll rest

/-- The outermost expressions of a stacked plan. -/
def Arm.outermost : Arm → List Expr
  | ⟨_, plan⟩ => plan.outermost

/-- The outermost expressions of each stacked plan, in order. -/
def Arm.outermostAll : List Arm → List Expr
  | [] => []
  | arm :: rest => arm.outermost ++ Arm.outermostAll rest

/-- The outermost expressions of a plan that may be absent. -/
def Plan.outermostOption : Option Plan → List Expr
  | none => []
  | some plan => plan.outermost

end

/-- The expressions right below an expression. -/
def Expr.children : Expr → List Expr
  | .value _ | .column _ => []
  | .compare _ lhs rhs => [lhs, rhs]
  | .conj operands | .disj operands => operands
  | .neg operand | .like operand _ _ | .isNull operand _ => [operand]
  | .inList operand items _ => operand :: items
  | .aggregate _ argument _ => argument.toList
  | .cases branches otherwise =>
      (branches.flatMap fun branch => [branch.condition, branch.result]) ++ [otherwise]
  | .anyRow plan _ => plan.outermost
  | .inQuery operand plan _ => operand :: plan.outermost

/-- The steps that lead from an expression to a node of it. -/
abbrev Address := List Nat

/-- The node at an address. -/
def Expr.nodeAt? : Expr → Address → Option Expr
  | expr, [] => some expr
  | expr, index :: rest => expr.children[index]?.bind fun part => part.nodeAt? rest

/-- The node at an address among several expressions. -/
def Expr.nodeAmong? (exprs : List Expr) : Address → Option Expr
  | [] => none
  | index :: rest => exprs[index]?.bind fun expr => expr.nodeAt? rest

/-! ## The walk node by node -/

theorem Expr.postorderAll_eq (exprs : List Expr) :
    Expr.postorderAll exprs = exprs.flatMap Expr.postorder := by
  induction exprs with
  | nil => rfl
  | cons expr rest ih => rw [postorderAll, ih, List.flatMap_cons]

theorem Expr.postorderOption_eq (option : Option Expr) :
    Expr.postorderOption option = option.toList.flatMap Expr.postorder := by
  cases option <;> simp [postorderOption]

theorem Branch.postorderAll_eq (branches : List Branch) :
    Branch.postorderAll branches =
      (branches.flatMap fun branch => [branch.condition, branch.result]).flatMap
        Expr.postorder := by
  induction branches with
  | nil => rfl
  | cons branch rest ih =>
      cases branch
      simp [postorderAll, postorder, ih]

theorem Item.postorderAll_eq (items : List Item) :
    Item.postorderAll items = (items.map Item.expr).flatMap Expr.postorder := by
  induction items with
  | nil => rfl
  | cons item rest ih =>
      cases item
      simp [postorderAll, postorder, ih]

theorem SortKey.postorderAll_eq (keys : List SortKey) :
    SortKey.postorderAll keys = (keys.map SortKey.expr).flatMap Expr.postorder := by
  induction keys with
  | nil => rfl
  | cons key rest ih =>
      cases key
      simp [postorderAll, postorder, ih]

mutual

/-- The walk over a plan is the walks over its outermost expressions. -/
theorem Plan.postorder_eq : ∀ plan : Plan,
    plan.postorder = plan.outermost.flatMap Expr.postorder
  | ⟨_, joins, filter, projection, groupBy, having, orderBy, _, arms⟩ => by
      simp [Plan.postorder, Plan.outermost, Join.postorderAll_eq joins, Expr.postorderOption_eq,
        Item.postorderAll_eq, Expr.postorderAll_eq, SortKey.postorderAll_eq,
        Arm.postorderAll_eq arms]

theorem Join.postorderAll_eq : ∀ joins : List Join,
    Join.postorderAll joins = (Join.outermostAll joins).flatMap Expr.postorder
  | [] => rfl
  | ⟨_, _, _, _, condition, _, rows⟩ :: rest => by
      simp [Join.postorderAll, Join.postorder, Join.outermostAll, Join.outermost,
        Plan.postorderOption_eq rows, Join.postorderAll_eq rest]

theorem Arm.postorderAll_eq : ∀ arms : List Arm,
    Arm.postorderAll arms = (Arm.outermostAll arms).flatMap Expr.postorder
  | [] => rfl
  | ⟨_, plan⟩ :: rest => by
      simp [Arm.postorderAll, Arm.postorder, Arm.outermostAll, Arm.outermost,
        Plan.postorder_eq plan, Arm.postorderAll_eq rest]

theorem Plan.postorderOption_eq : ∀ option : Option Plan,
    Plan.postorderOption option = (Plan.outermostOption option).flatMap Expr.postorder
  | none => rfl
  | some plan => plan.postorder_eq

end

/-- The walk over an expression is the walks over what lies right below it, and then the expression
itself. -/
theorem Expr.postorder_eq (expr : Expr) :
    expr.postorder = expr.children.flatMap Expr.postorder ++ [expr] := by
  cases expr with
  | value | column => rfl
  | _ =>
      simp [postorder, children, postorderAll_eq, postorderOption_eq, Branch.postorderAll_eq,
        Plan.postorder_eq]

section

variable {holds : Expr → Prop}

private theorem Join.forall_outermostAll (joins : List Join) :
    (∀ expr ∈ Join.outermostAll joins, holds expr) ↔
      ∀ join ∈ joins,
        (∀ rows ∈ join.rows, ∀ expr ∈ rows.outermost, holds expr) ∧ holds join.condition := by
  induction joins with
  | nil => simp [outermostAll]
  | cons join rest ih =>
      obtain ⟨_, _, _, _, condition, _, rows⟩ := join
      rw [outermostAll, outermost, List.forall_mem_append, ih, List.forall_mem_append,
        List.forall_mem_singleton, List.forall_mem_cons]
      cases rows <;> simp [Plan.outermostOption]

private theorem Arm.forall_outermostAll (arms : List Arm) :
    (∀ expr ∈ Arm.outermostAll arms, holds expr) ↔
      ∀ arm ∈ arms, ∀ expr ∈ arm.plan.outermost, holds expr := by
  induction arms with
  | nil => simp [outermostAll]
  | cons arm rest ih =>
      obtain ⟨_, plan⟩ := arm
      rw [outermostAll, outermost, List.forall_mem_append, ih, List.forall_mem_cons]

private theorem Branch.forall_parts {branches : List Branch}
    (each : ∀ branch ∈ branches, holds branch.condition ∧ holds branch.result) :
    ∀ expr ∈ branches.flatMap fun branch => [branch.condition, branch.result], holds expr := by
  intro expr mem
  obtain ⟨branch, among, part⟩ := List.mem_flatMap.mp mem
  rcases List.mem_cons.mp part with rfl | part
  · exact (each branch among).1
  · exact List.mem_singleton.mp part ▸ (each branch among).2

private theorem Plan.forall_outermost {plan : Plan}
    (parts : plan.Parts holds fun nested => ∀ expr ∈ nested.outermost, holds expr) :
    ∀ expr ∈ plan.outermost, holds expr := by
  obtain ⟨_, joins, filter, projection, groupBy, having, orderBy, _, arms⟩ := plan
  rw [outermost]
  simp only [List.forall_mem_append, List.forall_mem_map, Option.mem_toList]
  refine ⟨⟨⟨⟨⟨⟨?_, parts.filter⟩, parts.projection⟩, parts.groupBy⟩, parts.having⟩,
    parts.orderBy⟩, ?_⟩
  · rw [Join.forall_outermostAll]
    exact fun join mem => ⟨parts.rows join mem, parts.conditions join mem⟩
  · rw [Arm.forall_outermostAll]
    exact parts.arms

end

/-- What holds of an expression if it holds of its children holds of every expression. -/
theorem Expr.induction_children {motive : Expr → Prop}
    (node : ∀ expr : Expr, (∀ child ∈ expr.children, motive child) → motive expr) :
    ∀ expr, motive expr := by
  have nested : NestedInduction motive fun plan => ∀ expr ∈ plan.outermost, motive expr :=
    { value := fun _ => node _ (by simp [children])
      column := fun _ => node _ (by simp [children])
      compare := fun _ _ _ left right => node _ (by simp [children, left, right])
      conj := fun _ each => node _ each
      disj := fun _ each => node _ each
      neg := fun _ inside => node _ (List.forall_mem_singleton.mpr inside)
      inList := fun _ _ _ inside each => node _ (List.forall_mem_cons.mpr ⟨inside, each⟩)
      like := fun _ _ _ inside => node _ (List.forall_mem_singleton.mpr inside)
      isNull := fun _ _ inside => node _ (List.forall_mem_singleton.mpr inside)
      aggregate := fun _ _ _ each => node _ (by simpa [children])
      cases := fun _ _ each inside => node _ (List.forall_mem_append.mpr
        ⟨Branch.forall_parts each, List.forall_mem_singleton.mpr inside⟩)
      anyRow := fun _ _ inside => node _ inside
      inQuery := fun _ _ _ inside plan => node _ (List.forall_mem_cons.mpr ⟨inside, plan⟩)
      plan := fun _ parts => Plan.forall_outermost parts }
  exact nested.expr

/-! ## Stops in order -/

/-- The address under the next of several expressions. -/
def Address.next : Address → Address
  | [] => []
  | index :: rest => (index + 1) :: rest

@[simp] theorem Address.next_eq_nil {address : Address} : address.next = [] ↔ address = [] := by
  cases address <;> simp [next]

@[simp] theorem Address.next_ne_zero {address rest : Address} : address.next ≠ 0 :: rest := by
  cases address <;> simp [next]

@[simp] theorem Address.next_eq_succ {address rest : Address} {index : Nat} :
    address.next = (index + 1) :: rest ↔ address = index :: rest := by
  cases address <;> simp [next]

private theorem Address.prefix_of_next : ∀ {address other : Address}, address.next <+: other.next →
    address <+: other
  | [], _, _ => List.nil_prefix
  | _ :: _, [], inside => by cases List.prefix_nil.mp inside
  | _ :: _, _ :: _, inside => by
      simp only [next, List.cons_prefix_cons, Nat.add_right_cancel_iff] at inside
      exact List.cons_prefix_cons.mpr inside

private theorem Address.not_prefix_next {address other : Address} :
    ¬ 0 :: address <+: other.next := by
  cases other <;> simp [next]

/-- Stops of a walk, each with its address: one at every node, and none before those below it. -/
structure Traversal (node? : Address → Option Expr) (stops : List (Address × Expr)) : Prop where
  complete : ∀ address node, (address, node) ∈ stops ↔ node? address = some node
  below_first : stops.Pairwise fun earlier later => ¬ earlier.1 <+: later.1

namespace Traversal

variable {node? : Address → Option Expr} {stops : List (Address × Expr)}

/-- Each stop is at another address. -/
theorem nodup (traversal : Traversal node? stops) : (stops.map Prod.fst).Nodup := by
  rw [List.Nodup, List.pairwise_map]
  exact traversal.below_first.imp fun apart same => by simp [same] at apart

/-- The stops in a tree, and then those in the trees behind it. -/
theorem beside {first : Expr} {rest : List Expr} {others : List (Address × Expr)}
    (here : Traversal first.nodeAt? stops) (there : Traversal (Expr.nodeAmong? rest) others) :
    Traversal (Expr.nodeAmong? (first :: rest))
      (stops.map (fun stop => (0 :: stop.1, stop.2)) ++
        others.map fun stop => (stop.1.next, stop.2)) where
  complete address node := by
    match address with
    | [] => simp [Expr.nodeAmong?, there.complete]
    | 0 :: inner => simp [Expr.nodeAmong?, here.complete]
    | (index + 1) :: inner => simp [Expr.nodeAmong?, there.complete]
  below_first := by
    rw [List.pairwise_append, List.pairwise_map, List.pairwise_map]
    refine ⟨?_, ?_, ?_⟩
    · exact here.below_first.imp fun apart inside => apart (List.cons_prefix_cons.mp inside).2
    · exact there.below_first.imp fun apart inside => apart (Address.prefix_of_next inside)
    · -- addresses in different trees differ in their first step
      intro earlier mem later mem' inside
      obtain ⟨stop, -, rfl⟩ := List.mem_map.mp mem
      obtain ⟨other, -, rfl⟩ := List.mem_map.mp mem'
      exact Address.not_prefix_next inside

/-- The stops in several trees one after another. -/
theorem forest {exprs : List Expr}
    (each : ∀ expr ∈ exprs, ∃ stops, Traversal expr.nodeAt? stops ∧
      stops.map Prod.snd = expr.postorder) :
    ∃ stops, Traversal (Expr.nodeAmong? exprs) stops ∧
      stops.map Prod.snd = exprs.flatMap Expr.postorder := by
  induction exprs with
  | nil =>
      refine ⟨[], ⟨fun address node => ?_, .nil⟩, rfl⟩
      cases address <;> simp [Expr.nodeAmong?]
  | cons first rest ih =>
      rw [List.forall_mem_cons] at each
      obtain ⟨stops, here, nodes⟩ := each.1
      obtain ⟨others, there, nodes'⟩ := ih each.2
      refine ⟨_, here.beside there, ?_⟩
      simp [Function.comp_def, nodes, nodes']

/-- The stops in a tree are those below the root, and then the root. -/
theorem tree {expr : Expr} (below : Traversal (Expr.nodeAmong? expr.children) stops) :
    Traversal expr.nodeAt? (stops ++ [([], expr)]) where
  complete address node := by
    cases address with
    | nil => simp [below.complete, Expr.nodeAmong?, Expr.nodeAt?, eq_comm]
    | cons index rest => simp [below.complete, Expr.nodeAmong?, Expr.nodeAt?]
  below_first := by
    refine List.pairwise_append.mpr ⟨below.below_first, List.pairwise_singleton _ _, ?_⟩
    intro earlier mem later mem' inside
    obtain rfl := List.mem_singleton.mp mem'
    have root : earlier.1 = [] := List.prefix_nil.mp inside
    have found := (below.complete earlier.1 earlier.2).mp mem
    simp [root, Expr.nodeAmong?] at found

end Traversal

/-- The walk stops at every node of an expression once, and after the nodes below it. -/
theorem Expr.exists_traversal (expr : Expr) :
    ∃ stops, Traversal expr.nodeAt? stops ∧ stops.map Prod.snd = expr.postorder := by
  induction expr using Expr.induction_children with
  | node expr each =>
      obtain ⟨stops, below, nodes⟩ := Traversal.forest each
      refine ⟨_, below.tree, ?_⟩
      rw [List.map_append, nodes, List.map_singleton, ← Expr.postorder_eq]

/-! ## Constants -/

/-- The nodes of an expression are those that the walk stops at. -/
theorem Expr.mem_postorder_iff {expr node : Expr} :
    node ∈ expr.postorder ↔ ∃ address, expr.nodeAt? address = some node := by
  obtain ⟨stops, traversal, nodes⟩ := expr.exists_traversal
  simp [← nodes, traversal.complete]

private theorem Expr.readsRows_eq_false_iff {expr : Expr} : expr.readsRows = false ↔
    (∀ ref, expr ≠ .column ref) ∧ (∀ plan negated, expr ≠ .anyRow plan negated) ∧
      ∀ operand plan negated, expr ≠ .inQuery operand plan negated := by
  cases expr <;> simp [readsRows]

/-- The walk over an expression stops once at every node of it, at each after all that is below it.
So an expression is constant just if no node of it is a column or asks about a nested plan. -/
theorem Expr.postorder_visits (expr : Expr) :
    (∃ stops : List (Address × Expr),
      stops.map Prod.snd = expr.postorder ∧
      (stops.map Prod.fst).Nodup ∧
      (∀ address node, (address, node) ∈ stops ↔ expr.nodeAt? address = some node) ∧
      stops.Pairwise fun earlier later => ¬ earlier.1 <+: later.1) ∧
    (expr.isConst = true ↔ ∀ address node, expr.nodeAt? address = some node →
      (∀ ref, node ≠ .column ref) ∧ (∀ plan negated, node ≠ .anyRow plan negated) ∧
        ∀ operand plan negated, node ≠ .inQuery operand plan negated) := by
  obtain ⟨stops, traversal, nodes⟩ := expr.exists_traversal
  refine ⟨⟨stops, nodes, traversal.nodup, traversal.complete, traversal.below_first⟩, ?_⟩
  simp only [isConst, Bool.not_eq_true', List.any_eq_false, Bool.not_eq_true,
    readsRows_eq_false_iff, mem_postorder_iff]
  constructor
  · exact fun each address node found => each node ⟨address, found⟩
  · exact fun each node ⟨address, found⟩ => each address node found

end TrackedQuery
