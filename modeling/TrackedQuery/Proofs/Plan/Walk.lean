import TrackedQuery.Plan.Walk

/-!
# Walks over nested plans

A walk that starts deeper stops at the same parts, each as much deeper (`Plan.visits_add`).  Where a
walk stops at a plan, it goes on as a walk over that plan does (`Plan.visits_inside`).  So what is
found in a plan by itself is found in every plan that it is nested in.
-/

namespace TrackedQuery

/-- The stop, under more plans. -/
def Visit.lower (levels : Nat) (visit : Visit) : Visit :=
  { visit with depth := visit.depth + levels }

/-! ## Walks that start deeper -/

mutual

theorem Expr.visits_add (levels depth : Nat) : ∀ expr : Expr,
    expr.visits (depth + levels) = (expr.visits depth).map (Visit.lower levels)
  | .value _ | .column _ => rfl
  | .compare _ lhs rhs => by
      simp [Expr.visits, Visit.lower, lhs.visits_add, rhs.visits_add]
  | .conj operands | .disj operands => by
      simp [Expr.visits, Visit.lower, Expr.visitsAll_add levels depth operands]
  | .neg operand | .like operand _ _ | .isNull operand _ => by
      simp [Expr.visits, Visit.lower, operand.visits_add]
  | .inList operand items _ => by
      simp [Expr.visits, Visit.lower, operand.visits_add, Expr.visitsAll_add levels depth items]
  | .aggregate _ argument _ => by
      simp [Expr.visits, Visit.lower, Expr.visitsOption_add levels depth argument]
  | .cases branches otherwise => by
      simp [Expr.visits, Visit.lower, Branch.visitsAll_add levels depth branches,
        otherwise.visits_add]
  -- a nested plan begins one level deeper, whether levels are added before or after
  | .anyRow plan _ => by
      simp [Expr.visits, Visit.lower, Nat.add_right_comm depth levels 1,
        plan.visits_add levels (depth + 1)]
  | .inQuery operand plan _ => by
      simp [Expr.visits, Visit.lower, Nat.add_right_comm depth levels 1, operand.visits_add,
        plan.visits_add levels (depth + 1)]

theorem Expr.visitsAll_add (levels depth : Nat) : ∀ exprs : List Expr,
    Expr.visitsAll (depth + levels) exprs =
      (Expr.visitsAll depth exprs).map (Visit.lower levels)
  | [] => rfl
  | expr :: rest => by
      simp [Expr.visitsAll, expr.visits_add, Expr.visitsAll_add levels depth rest]

theorem Expr.visitsOption_add (levels depth : Nat) : ∀ option : Option Expr,
    Expr.visitsOption (depth + levels) option =
      (Expr.visitsOption depth option).map (Visit.lower levels)
  | none => rfl
  | some expr => by simp [Expr.visitsOption, expr.visits_add]

theorem Branch.visits_add (levels depth : Nat) : ∀ branch : Branch,
    branch.visits (depth + levels) = (branch.visits depth).map (Visit.lower levels)
  | ⟨condition, result⟩ => by simp [Branch.visits, condition.visits_add, result.visits_add]

theorem Branch.visitsAll_add (levels depth : Nat) : ∀ branches : List Branch,
    Branch.visitsAll (depth + levels) branches =
      (Branch.visitsAll depth branches).map (Visit.lower levels)
  | [] => rfl
  | branch :: rest => by
      simp [Branch.visitsAll, branch.visits_add, Branch.visitsAll_add levels depth rest]

theorem Item.visits_add (levels depth : Nat) : ∀ item : Item,
    item.visits (depth + levels) = (item.visits depth).map (Visit.lower levels)
  | ⟨expr, _⟩ => by simp [Item.visits, expr.visits_add]

theorem Item.visitsAll_add (levels depth : Nat) : ∀ items : List Item,
    Item.visitsAll (depth + levels) items =
      (Item.visitsAll depth items).map (Visit.lower levels)
  | [] => rfl
  | item :: rest => by
      simp [Item.visitsAll, item.visits_add, Item.visitsAll_add levels depth rest]

theorem SortKey.visits_add (levels depth : Nat) : ∀ key : SortKey,
    key.visits (depth + levels) = (key.visits depth).map (Visit.lower levels)
  | ⟨expr, _⟩ => by simp [SortKey.visits, Visit.lower, expr.visits_add]

theorem SortKey.visitsAll_add (levels depth : Nat) : ∀ keys : List SortKey,
    SortKey.visitsAll (depth + levels) keys =
      (SortKey.visitsAll depth keys).map (Visit.lower levels)
  | [] => rfl
  | key :: rest => by
      simp [SortKey.visitsAll, key.visits_add, SortKey.visitsAll_add levels depth rest]

theorem Join.visits_add (levels depth : Nat) : ∀ join : Join,
    join.visits (depth + levels) = (join.visits depth).map (Visit.lower levels)
  | ⟨_, _, _, _, condition, _, rows⟩ => by
      simp [Join.visits, Visit.lower, Nat.add_right_comm depth levels 1,
        Plan.visitsOption_add levels (depth + 1) rows, condition.visits_add]

theorem Join.visitsAll_add (levels depth : Nat) : ∀ joins : List Join,
    Join.visitsAll (depth + levels) joins =
      (Join.visitsAll depth joins).map (Visit.lower levels)
  | [] => rfl
  | join :: rest => by
      simp [Join.visitsAll, join.visits_add, Join.visitsAll_add levels depth rest]

theorem Arm.visits_add (levels depth : Nat) : ∀ arm : Arm,
    arm.visits (depth + levels) = (arm.visits depth).map (Visit.lower levels)
  | ⟨_, plan⟩ => by
      simp [Arm.visits, Nat.add_right_comm depth levels 1, plan.visits_add levels (depth + 1)]

theorem Arm.visitsAll_add (levels depth : Nat) : ∀ arms : List Arm,
    Arm.visitsAll (depth + levels) arms = (Arm.visitsAll depth arms).map (Visit.lower levels)
  | [] => rfl
  | arm :: rest => by
      simp [Arm.visitsAll, arm.visits_add, Arm.visitsAll_add levels depth rest]

theorem Plan.visitsOption_add (levels depth : Nat) : ∀ option : Option Plan,
    Plan.visitsOption (depth + levels) option =
      (Plan.visitsOption depth option).map (Visit.lower levels)
  | none => rfl
  | some plan => by simp [Plan.visitsOption, plan.visits_add]

/-- A walk that starts deeper stops at the same parts, each as much deeper. -/
theorem Plan.visits_add (levels depth : Nat) : ∀ plan : Plan,
    plan.visits (depth + levels) = (plan.visits depth).map (Visit.lower levels)
  | ⟨_, joins, filter, projection, groupBy, having, orderBy, _, arms⟩ => by
      simp [Plan.visits, Visit.lower, Join.visitsAll_add levels depth joins,
        Expr.visitsOption_add levels depth filter, Item.visitsAll_add levels depth projection,
        Expr.visitsAll_add levels depth groupBy, Expr.visitsOption_add levels depth having,
        SortKey.visitsAll_add levels depth orderBy, Arm.visitsAll_add levels depth arms]

end

/-! ## Walks that enter plans -/

/-- Wherever a plan is stopped at, everything inside it is as well. -/
def VisitsClosed (stops : List Visit) : Prop :=
  ∀ (depth : Nat) (plan : Plan), ⟨depth, .plan plan⟩ ∈ stops → plan.visits depth ⊆ stops

namespace VisitsClosed

variable {stops others : List Visit} {depth : Nat}

theorem nil : VisitsClosed [] := fun _ _ mem => absurd mem List.not_mem_nil

theorem append (first : VisitsClosed stops) (second : VisitsClosed others) :
    VisitsClosed (stops ++ others) := by
  intro depth plan mem
  rcases List.mem_append.mp mem with mem | mem
  · exact fun visit inside => List.mem_append_left _ (first depth plan mem inside)
  · exact fun visit inside => List.mem_append_right _ (second depth plan mem inside)

/-- Stopping at something else than a plan. -/
theorem cons {visit : Visit} (other : ∀ plan, visit.node ≠ .plan plan)
    (rest : VisitsClosed stops) : VisitsClosed (visit :: stops) := by
  intro depth plan mem
  rcases List.mem_cons.mp mem with rfl | mem
  · exact absurd rfl (other plan)
  · exact fun visit inside => List.mem_cons_of_mem _ (rest depth plan mem inside)

/-- Stopping at an expression. -/
theorem expr (expr : Expr) (rest : VisitsClosed stops) :
    VisitsClosed (⟨depth, .expr expr⟩ :: stops) :=
  cons (fun _ same => by cases same) rest

end VisitsClosed

mutual

theorem Expr.visits_closed (depth : Nat) : ∀ expr : Expr, VisitsClosed (expr.visits depth)
  | .value _ | .column _ => .expr _ .nil
  | .compare _ lhs rhs => .expr _ ((lhs.visits_closed depth).append (rhs.visits_closed depth))
  | .conj operands | .disj operands => .expr _ (Expr.visitsAll_closed depth operands)
  | .neg operand | .like operand _ _ | .isNull operand _ => .expr _ (operand.visits_closed depth)
  | .inList operand items _ =>
      .expr _ ((operand.visits_closed depth).append (Expr.visitsAll_closed depth items))
  | .aggregate _ argument _ => .expr _ (Expr.visitsOption_closed depth argument)
  | .cases branches otherwise =>
      .expr _ ((Branch.visitsAll_closed depth branches).append (otherwise.visits_closed depth))
  | .anyRow plan _ => .expr _ (plan.visits_closed (depth + 1))
  | .inQuery operand plan _ =>
      .expr _ ((operand.visits_closed depth).append (plan.visits_closed (depth + 1)))

theorem Expr.visitsAll_closed (depth : Nat) : ∀ exprs : List Expr,
    VisitsClosed (Expr.visitsAll depth exprs)
  | [] => .nil
  | expr :: rest => (expr.visits_closed depth).append (Expr.visitsAll_closed depth rest)

theorem Expr.visitsOption_closed (depth : Nat) : ∀ option : Option Expr,
    VisitsClosed (Expr.visitsOption depth option)
  | none => .nil
  | some expr => expr.visits_closed depth

theorem Branch.visits_closed (depth : Nat) : ∀ branch : Branch,
    VisitsClosed (branch.visits depth)
  | ⟨condition, result⟩ => (condition.visits_closed depth).append (result.visits_closed depth)

theorem Branch.visitsAll_closed (depth : Nat) : ∀ branches : List Branch,
    VisitsClosed (Branch.visitsAll depth branches)
  | [] => .nil
  | branch :: rest => (branch.visits_closed depth).append (Branch.visitsAll_closed depth rest)

theorem Item.visits_closed (depth : Nat) : ∀ item : Item, VisitsClosed (item.visits depth)
  | ⟨expr, _⟩ => expr.visits_closed depth

theorem Item.visitsAll_closed (depth : Nat) : ∀ items : List Item,
    VisitsClosed (Item.visitsAll depth items)
  | [] => .nil
  | item :: rest => (item.visits_closed depth).append (Item.visitsAll_closed depth rest)

theorem SortKey.visits_closed (depth : Nat) : ∀ key : SortKey, VisitsClosed (key.visits depth)
  | ⟨expr, _⟩ => .cons (fun _ same => by cases same) (expr.visits_closed depth)

theorem SortKey.visitsAll_closed (depth : Nat) : ∀ keys : List SortKey,
    VisitsClosed (SortKey.visitsAll depth keys)
  | [] => .nil
  | key :: rest => (key.visits_closed depth).append (SortKey.visitsAll_closed depth rest)

theorem Join.visits_closed (depth : Nat) : ∀ join : Join, VisitsClosed (join.visits depth)
  | ⟨_, _, _, _, condition, _, rows⟩ =>
      .cons (fun _ same => by cases same)
        ((Plan.visitsOption_closed (depth + 1) rows).append (condition.visits_closed depth))

theorem Join.visitsAll_closed (depth : Nat) : ∀ joins : List Join,
    VisitsClosed (Join.visitsAll depth joins)
  | [] => .nil
  | join :: rest => (join.visits_closed depth).append (Join.visitsAll_closed depth rest)

theorem Arm.visits_closed (depth : Nat) : ∀ arm : Arm, VisitsClosed (arm.visits depth)
  | ⟨_, plan⟩ => plan.visits_closed (depth + 1)

theorem Arm.visitsAll_closed (depth : Nat) : ∀ arms : List Arm,
    VisitsClosed (Arm.visitsAll depth arms)
  | [] => .nil
  | arm :: rest => (arm.visits_closed depth).append (Arm.visitsAll_closed depth rest)

theorem Plan.visitsOption_closed (depth : Nat) : ∀ option : Option Plan,
    VisitsClosed (Plan.visitsOption depth option)
  | none => .nil
  | some plan => plan.visits_closed depth

theorem Plan.visits_closed (depth : Nat) : ∀ plan : Plan, VisitsClosed (plan.visits depth)
  | ⟨source, joins, filter, projection, groupBy, having, orderBy, window, arms⟩ => by
      have inside : VisitsClosed (Join.visitsAll depth joins ++ Expr.visitsOption depth filter
          ++ ⟨depth, .projection projection⟩ :: Item.visitsAll depth projection
          ++ Expr.visitsAll depth groupBy ++ Expr.visitsOption depth having
          ++ SortKey.visitsAll depth orderBy ++ Arm.visitsAll depth arms) :=
        ((((((Join.visitsAll_closed depth joins).append
          (Expr.visitsOption_closed depth filter)).append
          (.cons (fun _ same => by cases same) (Item.visitsAll_closed depth projection))).append
          (Expr.visitsAll_closed depth groupBy)).append
          (Expr.visitsOption_closed depth having)).append
          (SortKey.visitsAll_closed depth orderBy)).append (Arm.visitsAll_closed depth arms)
      intro entered nested mem
      rcases List.mem_cons.mp mem with same | mem
      · -- the plan itself
        cases same
        exact List.Subset.refl _
      · exact fun visit stop => List.mem_cons_of_mem _ (inside entered nested mem stop)

end

/-- Where a walk stops at a plan, it goes on as a walk over that plan does. -/
theorem Plan.visits_inside {top nested : Plan} {entered : Nat}
    (placed : ⟨entered, .plan nested⟩ ∈ top.visits 0) {visit : Visit}
    (visited : visit ∈ nested.visits 0) : visit.lower entered ∈ top.visits 0 := by
  refine top.visits_closed 0 entered nested placed ?_
  have deeper := nested.visits_add entered 0
  rw [Nat.zero_add] at deeper
  rw [deeper]
  exact List.mem_map_of_mem visited

end TrackedQuery
