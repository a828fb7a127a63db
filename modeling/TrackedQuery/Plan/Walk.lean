import TrackedQuery.Plan.Build

/-!
# Walking plans and expressions

Two walks cover everything that a plan or an expression contains, nested plans included.

* `visits` lists each part before the parts inside it, together with its depth: the number of nested
  plans around it.  A column of nesting `n` at depth `n` belongs to the plan where the walk started.
* `Expr.postorder` lists each expression after the expressions inside it.

Inside a plan the order is: joins (each with its nested rows before its condition), filter,
projection, grouping keys, group filter, ordering, stacked plans.
-/

namespace TrackedQuery

/-- A part of a plan or an expression at which a walk stops. -/
inductive Node where
  | expr (expr : Expr)
  | plan (plan : Plan)
  | join (join : Join)
  | projection (items : List Item)
  | sortKey (key : SortKey)

/-- A stop of a walk. -/
structure Visit where
  /-- How many nested plans surround the part. -/
  depth : Nat
  node : Node

/-! ## Parts before their own parts -/

mutual

/-- The stops inside an expression that lies at the given depth. -/
def Expr.visits (depth : Nat) : Expr → List Visit
  | .value literal => [⟨depth, .expr (.value literal)⟩]
  | .column ref => [⟨depth, .expr (.column ref)⟩]
  | .compare op lhs rhs =>
      ⟨depth, .expr (.compare op lhs rhs)⟩ :: (lhs.visits depth ++ rhs.visits depth)
  | .conj operands => ⟨depth, .expr (.conj operands)⟩ :: Expr.visitsAll depth operands
  | .disj operands => ⟨depth, .expr (.disj operands)⟩ :: Expr.visitsAll depth operands
  | .neg operand => ⟨depth, .expr (.neg operand)⟩ :: operand.visits depth
  | .inList operand items negated =>
      ⟨depth, .expr (.inList operand items negated)⟩
        :: (operand.visits depth ++ Expr.visitsAll depth items)
  | .like operand pattern negated =>
      ⟨depth, .expr (.like operand pattern negated)⟩ :: operand.visits depth
  | .isNull operand negated => ⟨depth, .expr (.isNull operand negated)⟩ :: operand.visits depth
  | .aggregate function argument distinct =>
      ⟨depth, .expr (.aggregate function argument distinct)⟩ :: Expr.visitsOption depth argument
  | .cases branches otherwise =>
      ⟨depth, .expr (.cases branches otherwise)⟩
        :: (Branch.visitsAll depth branches ++ otherwise.visits depth)
  | .anyRow plan negated => ⟨depth, .expr (.anyRow plan negated)⟩ :: plan.visits (depth + 1)
  | .inQuery operand plan negated =>
      ⟨depth, .expr (.inQuery operand plan negated)⟩
        :: (operand.visits depth ++ plan.visits (depth + 1))

/-- The stops inside each expression, in order. -/
def Expr.visitsAll (depth : Nat) : List Expr → List Visit
  | [] => []
  | expr :: rest => expr.visits depth ++ Expr.visitsAll depth rest

/-- The stops inside an expression that may be absent. -/
def Expr.visitsOption (depth : Nat) : Option Expr → List Visit
  | none => []
  | some expr => expr.visits depth

/-- The stops inside one branch. -/
def Branch.visits (depth : Nat) : Branch → List Visit
  | ⟨condition, result⟩ => condition.visits depth ++ result.visits depth

/-- The stops inside each branch, in order. -/
def Branch.visitsAll (depth : Nat) : List Branch → List Visit
  | [] => []
  | branch :: rest => branch.visits depth ++ Branch.visitsAll depth rest

/-- The stops inside a projected item. -/
def Item.visits (depth : Nat) : Item → List Visit
  | ⟨expr, _⟩ => expr.visits depth

/-- The stops inside each projected item, in order. -/
def Item.visitsAll (depth : Nat) : List Item → List Visit
  | [] => []
  | item :: rest => item.visits depth ++ Item.visitsAll depth rest

/-- The stops inside a sort key. -/
def SortKey.visits (depth : Nat) : SortKey → List Visit
  | ⟨expr, direction⟩ => ⟨depth, .sortKey ⟨expr, direction⟩⟩ :: expr.visits depth

/-- The stops inside each sort key, in order. -/
def SortKey.visitsAll (depth : Nat) : List SortKey → List Visit
  | [] => []
  | key :: rest => key.visits depth ++ SortKey.visitsAll depth rest

/-- The stops inside a join.  Its nested rows are one plan deeper than its condition. -/
def Join.visits (depth : Nat) : Join → List Visit
  | ⟨kind, tableAlias, entity, table, condition, origin, rows⟩ =>
      ⟨depth, .join ⟨kind, tableAlias, entity, table, condition, origin, rows⟩⟩
        :: (Plan.visitsOption (depth + 1) rows ++ condition.visits depth)

/-- The stops inside each join, in order. -/
def Join.visitsAll (depth : Nat) : List Join → List Visit
  | [] => []
  | join :: rest => join.visits depth ++ Join.visitsAll depth rest

/-- The stops inside a stacked plan, which counts as nested. -/
def Arm.visits (depth : Nat) : Arm → List Visit
  | ⟨_, plan⟩ => plan.visits (depth + 1)

/-- The stops inside each stacked plan, in order. -/
def Arm.visitsAll (depth : Nat) : List Arm → List Visit
  | [] => []
  | arm :: rest => arm.visits depth ++ Arm.visitsAll depth rest

/-- The stops inside a plan that may be absent. -/
def Plan.visitsOption (depth : Nat) : Option Plan → List Visit
  | none => []
  | some plan => plan.visits depth

/-- The stops inside a plan whose own parts lie at the given depth. -/
def Plan.visits (depth : Nat) : Plan → List Visit
  | ⟨source, joins, filter, projection, groupBy, having, orderBy, window, arms⟩ =>
      ⟨depth,
          .plan ⟨source, joins, filter, projection, groupBy, having, orderBy, window, arms⟩⟩
        :: (Join.visitsAll depth joins ++ Expr.visitsOption depth filter
          ++ ⟨depth, .projection projection⟩ :: Item.visitsAll depth projection
          ++ Expr.visitsAll depth groupBy ++ Expr.visitsOption depth having
          ++ SortKey.visitsAll depth orderBy ++ Arm.visitsAll depth arms)

end

/-! ## Expressions after their own parts -/

mutual

/-- Every expression inside an expression, each after those inside it. -/
def Expr.postorder : Expr → List Expr
  | .value literal => [.value literal]
  | .column ref => [.column ref]
  | .compare op lhs rhs => lhs.postorder ++ rhs.postorder ++ [.compare op lhs rhs]
  | .conj operands => Expr.postorderAll operands ++ [.conj operands]
  | .disj operands => Expr.postorderAll operands ++ [.disj operands]
  | .neg operand => operand.postorder ++ [.neg operand]
  | .inList operand items negated =>
      operand.postorder ++ Expr.postorderAll items ++ [.inList operand items negated]
  | .like operand pattern negated => operand.postorder ++ [.like operand pattern negated]
  | .isNull operand negated => operand.postorder ++ [.isNull operand negated]
  | .aggregate function argument distinct =>
      Expr.postorderOption argument ++ [.aggregate function argument distinct]
  | .cases branches otherwise =>
      Branch.postorderAll branches ++ otherwise.postorder ++ [.cases branches otherwise]
  | .anyRow plan negated => plan.postorder ++ [.anyRow plan negated]
  | .inQuery operand plan negated =>
      operand.postorder ++ plan.postorder ++ [.inQuery operand plan negated]

/-- `Expr.postorder` of each expression, in order. -/
def Expr.postorderAll : List Expr → List Expr
  | [] => []
  | expr :: rest => expr.postorder ++ Expr.postorderAll rest

/-- `Expr.postorder` of an expression that may be absent. -/
def Expr.postorderOption : Option Expr → List Expr
  | none => []
  | some expr => expr.postorder

/-- The expressions of one branch. -/
def Branch.postorder : Branch → List Expr
  | ⟨condition, result⟩ => condition.postorder ++ result.postorder

/-- The expressions of each branch, in order. -/
def Branch.postorderAll : List Branch → List Expr
  | [] => []
  | branch :: rest => branch.postorder ++ Branch.postorderAll rest

/-- The expressions of a projected item. -/
def Item.postorder : Item → List Expr
  | ⟨expr, _⟩ => expr.postorder

/-- The expressions of each projected item, in order. -/
def Item.postorderAll : List Item → List Expr
  | [] => []
  | item :: rest => item.postorder ++ Item.postorderAll rest

/-- The expressions of a sort key. -/
def SortKey.postorder : SortKey → List Expr
  | ⟨expr, _⟩ => expr.postorder

/-- The expressions of each sort key, in order. -/
def SortKey.postorderAll : List SortKey → List Expr
  | [] => []
  | key :: rest => key.postorder ++ SortKey.postorderAll rest

/-- The expressions of a join: those of its nested rows, then those of its condition. -/
def Join.postorder : Join → List Expr
  | ⟨_, _, _, _, condition, _, rows⟩ => Plan.postorderOption rows ++ condition.postorder

/-- The expressions of each join, in order. -/
def Join.postorderAll : List Join → List Expr
  | [] => []
  | join :: rest => join.postorder ++ Join.postorderAll rest

/-- The expressions of a stacked plan. -/
def Arm.postorder : Arm → List Expr
  | ⟨_, plan⟩ => plan.postorder

/-- The expressions of each stacked plan, in order. -/
def Arm.postorderAll : List Arm → List Expr
  | [] => []
  | arm :: rest => arm.postorder ++ Arm.postorderAll rest

/-- The expressions of a plan that may be absent. -/
def Plan.postorderOption : Option Plan → List Expr
  | none => []
  | some plan => plan.postorder

/-- Every expression inside a plan, each after those inside it. -/
def Plan.postorder : Plan → List Expr
  | ⟨_, joins, filter, projection, groupBy, having, orderBy, _, arms⟩ =>
      Join.postorderAll joins ++ Expr.postorderOption filter ++ Item.postorderAll projection
        ++ Expr.postorderAll groupBy ++ Expr.postorderOption having ++ SortKey.postorderAll orderBy
        ++ Arm.postorderAll arms

end

/-! ## Questions answered by a walk -/

/-- Whether an expression reads rows: it is a column or asks about a nested plan. -/
def Expr.readsRows : Expr → Bool
  | .column _ | .anyRow _ _ | .inQuery _ _ _ => true
  | _ => false

/-- Whether an expression has one value for all rows. -/
def Expr.isConst (expr : Expr) : Bool := !expr.postorder.any Expr.readsRows

/-- The column at which a walk stops, if it stops at one. -/
def Visit.column? (visit : Visit) : Option ColumnRef :=
  match visit.node with
  | .expr expr => expr.column?
  | _ => none

/-- The columns that lead out of as many plans as surround them: columns of the plan where the walk
started. -/
def Visit.ownColumn? (visit : Visit) : Option ColumnRef :=
  visit.column?.filter fun ref => ref.nesting == visit.depth

end TrackedQuery
