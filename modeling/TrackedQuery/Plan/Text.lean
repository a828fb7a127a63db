import TrackedQuery.Error
import TrackedQuery.Plan.Walk

/-!
# The text of plans and expressions

Every node is written as its kind with its fields in braces.  Columns, operators and paths have
short forms: column 1 of table 0 is `t0.c1`, and `^2.` before it leaves two plans.
-/

namespace TrackedQuery

/-! ## Leaves -/

/-- The text of a column. -/
def ColumnRef.describe (ref : ColumnRef) : String :=
  (if ref.nesting > 0 then "^" ++ toString ref.nesting ++ "." else "")
    ++ aliasText ref.table ++ ".c"
    ++ toString ref.column

/-- The text of a path: its starting table and its steps, separated by points. -/
def NavPath.describe (path : NavPath) : String :=
  path.steps.foldl (fun text step => text ++ "." ++ step) (aliasText path.origin)

/-- The text of a join kind. -/
def JoinKind.describe : JoinKind → String
  | .inner => "Inner"
  | .left => "Left"
  | .right => "Right"

/-- The text of a join origin. -/
def JoinOrigin.describe : JoinOrigin → String
  | .explicit => "Explicit"
  | .navigation path => "Implicit(" ++ path.describe ++ ")"

/-- The text of a direction. -/
def Direction.describe : Direction → String
  | .ascending => "Asc"
  | .descending => "Desc"

/-- The text of a set operator. -/
def SetOperator.describe : SetOperator → String
  | .union => "Union"
  | .unionAll => "UnionAll"

namespace Describe

/-- A kind with its fields in braces. -/
def fields (kind : String) (items : List (String × String)) : String :=
  kind ++ " \x7b "
    ++ ", ".intercalate (items.map fun (field, text) => field ++ ": " ++ text) ++ " \x7d"

/-- Something that may be absent. -/
def optional : Option String → String
  | none => "None"
  | some text => "Some(" ++ text ++ ")"

/-- A truth value. -/
def truth (value : Bool) : String := if value then "true" else "false"

end Describe

/-- The text of a window. -/
def Window.describe (window : Window) : String :=
  Describe.fields "Limit"
    [("offset", Describe.optional (window.offset.map toString)),
      ("limit", Describe.optional (window.limit.map toString))]

/-- The text of a base table. -/
def Source.describe (source : Source) : String :=
  Describe.fields "Source"
    [("entity", Text.quoted source.entity), ("table_name", Text.quoted source.table),
      ("alias", aliasText source.tableAlias)]

/-! ## Nodes -/

mutual

/-- The text of an expression. -/
def Expr.describe : Expr → String
  | .value literal => literal.describe
  | .column ref => ref.describe
  | .compare op lhs rhs =>
      Describe.fields "ExprBinaryOp"
        [("lhs", lhs.describe), ("op", op.sign), ("rhs", rhs.describe)]
  | .conj operands =>
      Describe.fields "ExprAnd" [("operands", Ty.bracketed (Expr.describeAll operands))]
  | .disj operands =>
      Describe.fields "ExprOr" [("operands", Ty.bracketed (Expr.describeAll operands))]
  | .neg operand => Describe.fields "ExprNot" [("expr", operand.describe)]
  | .inList operand items negated =>
      Describe.fields "ExprInList"
        [("expr", operand.describe), ("list", Ty.bracketed (Expr.describeAll items)),
          ("negated", Describe.truth negated)]
  | .like operand pattern negated =>
      Describe.fields "ExprLike"
        [("expr", operand.describe), ("pattern", Text.quoted pattern),
          ("negated", Describe.truth negated)]
  | .isNull operand negated =>
      Describe.fields "ExprIsNull"
        [("expr", operand.describe), ("negated", Describe.truth negated)]
  | .aggregate function argument distinct =>
      Describe.fields "ExprAggregate"
        [("func", function.name), ("arg", Describe.optional (Expr.describeOption argument)),
          ("distinct", Describe.truth distinct)]
  | .cases branches otherwise =>
      Describe.fields "ExprCase"
        [("branches", Ty.bracketed (Branch.describeAll branches)),
          ("otherwise", otherwise.describe)]
  | .anyRow plan negated =>
      Describe.fields "ExprExists"
        [("subquery", plan.describe), ("negated", Describe.truth negated)]
  | .inQuery operand plan negated =>
      Describe.fields "ExprInSubquery"
        [("expr", operand.describe), ("subquery", plan.describe),
          ("negated", Describe.truth negated)]

/-- The text of each expression. -/
def Expr.describeAll : List Expr → List String
  | [] => []
  | expr :: rest => expr.describe :: Expr.describeAll rest

/-- The text of an expression that may be absent. -/
def Expr.describeOption : Option Expr → Option String
  | none => none
  | some expr => some expr.describe

/-- The text of a branch. -/
def Branch.describe : Branch → String
  | ⟨condition, result⟩ =>
      Describe.fields "CaseBranch" [("when", condition.describe), ("then", result.describe)]

/-- The text of each branch. -/
def Branch.describeAll : List Branch → List String
  | [] => []
  | branch :: rest => branch.describe :: Branch.describeAll rest

/-- The text of a projected item. -/
def Item.describe : Item → String
  | ⟨expr, ty⟩ =>
      Describe.fields "ProjectionItem" [("expr", expr.describe), ("ty", ty.describe)]

/-- The text of each projected item. -/
def Item.describeAll : List Item → List String
  | [] => []
  | item :: rest => item.describe :: Item.describeAll rest

/-- The text of a sort key. -/
def SortKey.describe : SortKey → String
  | ⟨expr, direction⟩ =>
      Describe.fields "OrderByExpr" [("expr", expr.describe), ("direction", direction.describe)]

/-- The text of each sort key. -/
def SortKey.describeAll : List SortKey → List String
  | [] => []
  | key :: rest => key.describe :: SortKey.describeAll rest

/-- The text of a join. -/
def Join.describe : Join → String
  | ⟨kind, tableAlias, entity, table, condition, origin, rows⟩ =>
      Describe.fields "Join"
        [("kind", kind.describe), ("alias", aliasText tableAlias), ("entity", Text.quoted entity),
          ("table_name", Text.quoted table), ("on", condition.describe),
          ("origin", origin.describe),
          ("subquery", Describe.optional (Plan.describeOption rows))]

/-- The text of each join. -/
def Join.describeAll : List Join → List String
  | [] => []
  | join :: rest => join.describe :: Join.describeAll rest

/-- The text of a stacked plan. -/
def Arm.describe : Arm → String
  | ⟨op, plan⟩ => Describe.fields "SetOperation" [("op", op.describe), ("query", plan.describe)]

/-- The text of each stacked plan. -/
def Arm.describeAll : List Arm → List String
  | [] => []
  | arm :: rest => arm.describe :: Arm.describeAll rest

/-- The text of a plan that may be absent. -/
def Plan.describeOption : Option Plan → Option String
  | none => none
  | some plan => some plan.describe

/-- The text of a plan. -/
def Plan.describe : Plan → String
  | ⟨source, joins, filter, projection, groupBy, having, orderBy, window, arms⟩ =>
      Describe.fields "QueryPlan"
        [("source", source.describe), ("joins", Ty.bracketed (Join.describeAll joins)),
          ("filter", Describe.optional (Expr.describeOption filter)),
          ("projection",
            Describe.fields "Projection" [("items", Ty.bracketed (Item.describeAll projection))]),
          ("group_by", Ty.bracketed (Expr.describeAll groupBy)),
          ("having", Describe.optional (Expr.describeOption having)),
          ("order_by", Ty.bracketed (SortKey.describeAll orderBy)),
          ("limit", Describe.optional (window.map Window.describe)),
          ("set_ops", Ty.bracketed (Arm.describeAll arms))]

end

/-- The name of the part at which a walk stops; a column goes by its text. -/
def Visit.name (visit : Visit) : String :=
  match visit.node with
  | .plan _ => "query_plan"
  | .join _ => "join"
  | .projection _ => "projection"
  | .sortKey _ => "order_by_expr"
  | .expr expr =>
      match expr with
      | .value _ => "value"
      | .column ref => ref.describe
      | .compare _ _ _ => "expr_binary_op"
      | .conj _ => "expr_and"
      | .disj _ => "expr_or"
      | .neg _ => "expr_not"
      | .inList _ _ _ => "expr_in_list"
      | .like _ _ _ => "expr_like"
      | .isNull _ _ => "expr_is_null"
      | .aggregate _ _ _ => "expr_aggregate"
      | .cases _ _ => "expr_case"
      | .anyRow _ _ => "expr_exists"
      | .inQuery _ _ _ => "expr_in_subquery"

end TrackedQuery
