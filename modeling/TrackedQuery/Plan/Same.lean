import TrackedQuery.Plan.Basic

/-!
# Structural equality of plans and expressions

Two expressions are the same when they have the same shape and equal parts.  Literals are compared
as values (`Value.equal`), so an expression that contains a NaN is not the same as itself.
-/

namespace TrackedQuery

/-- Whether two references lead to the same column. -/
def ColumnRef.same (left right : ColumnRef) : Bool :=
  left.nesting == right.nesting && left.table == right.table && left.column == right.column

/-- Whether two base tables are the same. -/
def Source.same (left right : Source) : Bool :=
  left.entity == right.entity && left.table == right.table && left.tableAlias == right.tableAlias

mutual

/-- Whether two expressions are the same. -/
def Expr.same : Expr → Expr → Bool
  | .value left, .value right => left.equal right
  | .column left, .column right => left.same right
  | .compare op lhs rhs, .compare op' lhs' rhs' => lhs.same lhs' && op == op' && rhs.same rhs'
  | .conj left, .conj right => Expr.sameAll left right
  | .disj left, .disj right => Expr.sameAll left right
  | .neg left, .neg right => left.same right
  | .inList operand items negated, .inList operand' items' negated' =>
      operand.same operand' && Expr.sameAll items items' && negated == negated'
  | .like operand pattern negated, .like operand' pattern' negated' =>
      operand.same operand' && pattern == pattern' && negated == negated'
  | .isNull operand negated, .isNull operand' negated' =>
      operand.same operand' && negated == negated'
  | .aggregate function argument distinct, .aggregate function' argument' distinct' =>
      function == function' && Expr.sameOption argument argument' && distinct == distinct'
  | .cases branches otherwise, .cases branches' otherwise' =>
      Branch.sameAll branches branches' && otherwise.same otherwise'
  | .anyRow plan negated, .anyRow plan' negated' => plan.same plan' && negated == negated'
  | .inQuery operand plan negated, .inQuery operand' plan' negated' =>
      operand.same operand' && plan.same plan' && negated == negated'
  | _, _ => false

/-- Whether two lists hold the same expressions. -/
def Expr.sameAll : List Expr → List Expr → Bool
  | [], [] => true
  | left :: lefts, right :: rights => left.same right && Expr.sameAll lefts rights
  | _, _ => false

/-- Whether two expressions are both absent, or the same. -/
def Expr.sameOption : Option Expr → Option Expr → Bool
  | none, none => true
  | some left, some right => left.same right
  | _, _ => false

/-- Whether two branches are the same. -/
def Branch.same : Branch → Branch → Bool
  | ⟨condition, result⟩, ⟨condition', result'⟩ =>
      condition.same condition' && result.same result'

/-- Whether two lists hold the same branches. -/
def Branch.sameAll : List Branch → List Branch → Bool
  | [], [] => true
  | left :: lefts, right :: rights => left.same right && Branch.sameAll lefts rights
  | _, _ => false

/-- Whether two projected items are the same. -/
def Item.same : Item → Item → Bool
  | ⟨expr, ty⟩, ⟨expr', ty'⟩ => expr.same expr' && ty.same ty'

/-- Whether two projections are the same. -/
def Item.sameAll : List Item → List Item → Bool
  | [], [] => true
  | left :: lefts, right :: rights => left.same right && Item.sameAll lefts rights
  | _, _ => false

/-- Whether two sort keys are the same. -/
def SortKey.same : SortKey → SortKey → Bool
  | ⟨expr, direction⟩, ⟨expr', direction'⟩ => expr.same expr' && direction == direction'

/-- Whether two orderings are the same. -/
def SortKey.sameAll : List SortKey → List SortKey → Bool
  | [], [] => true
  | left :: lefts, right :: rights => left.same right && SortKey.sameAll lefts rights
  | _, _ => false

/-- Whether two joins are the same. -/
def Join.same : Join → Join → Bool
  | ⟨kind, tableAlias, entity, table, condition, origin, rows⟩,
    ⟨kind', tableAlias', entity', table', condition', origin', rows'⟩ =>
      kind == kind' && tableAlias == tableAlias' && entity == entity' && table == table'
        && condition.same condition' && origin == origin' && Plan.sameOption rows rows'

/-- Whether two lists hold the same joins. -/
def Join.sameAll : List Join → List Join → Bool
  | [], [] => true
  | left :: lefts, right :: rights => left.same right && Join.sameAll lefts rights
  | _, _ => false

/-- Whether two stacked plans are the same. -/
def Arm.same : Arm → Arm → Bool
  | ⟨op, plan⟩, ⟨op', plan'⟩ => op == op' && plan.same plan'

/-- Whether two lists hold the same stacked plans. -/
def Arm.sameAll : List Arm → List Arm → Bool
  | [], [] => true
  | left :: lefts, right :: rights => left.same right && Arm.sameAll lefts rights
  | _, _ => false

/-- Whether two plans are both absent, or the same. -/
def Plan.sameOption : Option Plan → Option Plan → Bool
  | none, none => true
  | some left, some right => left.same right
  | _, _ => false

/-- Whether two plans are the same. -/
def Plan.same : Plan → Plan → Bool
  | ⟨source, joins, filter, projection, groupBy, having, orderBy, window, arms⟩,
    ⟨source', joins', filter', projection', groupBy', having', orderBy', window', arms'⟩ =>
      source.same source' && Join.sameAll joins joins' && Expr.sameOption filter filter'
        && Item.sameAll projection projection' && Expr.sameAll groupBy groupBy'
        && Expr.sameOption having having' && SortKey.sameAll orderBy orderBy'
        && window == window' && Arm.sameAll arms arms'

end

end TrackedQuery
