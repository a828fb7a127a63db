import TrackedQuery.Database.Operation
import TrackedQuery.Document.Value

/-!
# Documents of plans and operations

An expression is tagged with its form.  Every part of a plan has a member of its own, which is null
or empty when the plan lacks the part.
-/

namespace TrackedQuery

/-- The name of a kind of join. -/
def JoinKind.name : JoinKind → String
  | .inner => "inner"
  | .left => "left"
  | .right => "right"

/-- The short name of a direction. -/
def Direction.name : Direction → String
  | .ascending => "asc"
  | .descending => "desc"

/-- The name of a set operator. -/
def SetOperator.name : SetOperator → String
  | .union => "union"
  | .unionAll => "union_all"

/-- The document of a path. -/
def NavPath.document (path : NavPath) : Document :=
  .record [("origin", .natural path.origin), ("steps", .all .text path.steps)]

/-- The document of the origin of a join. -/
def JoinOrigin.document : JoinOrigin → Document
  | .explicit => .text "explicit"
  | .navigation path => path.document

/-- The document of a window. -/
def Window.document (window : Window) : Document :=
  .record [("offset", .option (fun count => .longNumber count) window.offset),
    ("limit", .option (fun count => .longNumber count) window.limit)]

/-- The document of a base table. -/
def Source.document (source : Source) : Document :=
  .record [("entity", .text source.entity), ("table", .text source.table),
    ("alias", .natural source.tableAlias)]

/-- The name of the form of an expression. -/
def Expr.tag : Expr → String
  | .value _ => "val"
  | .column _ => "col"
  | .compare _ _ _ => "bin"
  | .conj _ => "and"
  | .disj _ => "or"
  | .neg _ => "not"
  | .inList _ _ _ => "in"
  | .like _ _ _ => "like"
  | .isNull _ _ => "is_null"
  | .aggregate _ _ _ => "agg"
  | .cases _ _ => "case"
  | .anyRow _ _ => "exists"
  | .inQuery _ _ _ => "in_query"

mutual

/-- The document of an expression. -/
def Expr.document (expr : Expr) : Document :=
  .tagged expr.tag <|
    match expr with
    | .value literal => literal.document
    | .column ref => .all .natural [ref.nesting, ref.table, ref.column]
    | .compare op lhs rhs => .list [.text op.sign, lhs.document, rhs.document]
    | .conj operands | .disj operands => .list (Expr.documents operands)
    | .neg operand => operand.document
    | .inList operand items negated =>
        .record [("expr", operand.document), ("list", .list (Expr.documents items)),
          ("negated", .truth negated)]
    | .like operand pattern negated =>
        .record [("expr", operand.document), ("pattern", .text pattern),
          ("negated", .truth negated)]
    | .isNull operand negated =>
        .record [("expr", operand.document), ("negated", .truth negated)]
    | .aggregate function argument distinct =>
        .record [("func", .text function.name), ("arg", Expr.optionDocument argument),
          ("distinct", .truth distinct)]
    | .cases branches otherwise =>
        .record [("branches", .list (Branch.documents branches)), ("else", otherwise.document)]
    | .anyRow plan negated => .record [("plan", plan.document), ("negated", .truth negated)]
    | .inQuery operand plan negated =>
        .record [("expr", operand.document), ("plan", plan.document), ("negated", .truth negated)]

/-- The documents of expressions. -/
def Expr.documents : List Expr → List Document
  | [] => []
  | first :: rest => first.document :: Expr.documents rest

/-- The document of an expression that may be absent. -/
def Expr.optionDocument : Option Expr → Document
  | none => .null
  | some expr => expr.document

/-- The documents of branches. -/
def Branch.documents : List Branch → List Document
  | [] => []
  | ⟨condition, result⟩ :: rest =>
      .list [condition.document, result.document] :: Branch.documents rest

/-- The document of a projected item. -/
def Item.document : Item → Document
  | ⟨expr, ty⟩ => .record [("expr", expr.document), ("ty", ty.document)]

/-- The documents of projected items. -/
def Item.documents : List Item → List Document
  | [] => []
  | first :: rest => first.document :: Item.documents rest

/-- The documents of sort keys. -/
def SortKey.documents : List SortKey → List Document
  | [] => []
  | ⟨expr, direction⟩ :: rest =>
      .record [("expr", expr.document), ("dir", .text direction.name)] :: SortKey.documents rest

/-- The document of a join. -/
def Join.document : Join → Document
  | ⟨kind, tableAlias, entity, table, condition, origin, rows⟩ =>
      .record [("kind", .text kind.name), ("alias", .natural tableAlias), ("entity", .text entity),
        ("table", .text table), ("on", condition.document), ("origin", origin.document),
        ("subquery", Plan.optionDocument rows)]

/-- The documents of joins. -/
def Join.documents : List Join → List Document
  | [] => []
  | first :: rest => first.document :: Join.documents rest

/-- The documents of stacked plans. -/
def Arm.documents : List Arm → List Document
  | [] => []
  | ⟨op, plan⟩ :: rest =>
      .record [("op", .text op.name), ("query", plan.document)] :: Arm.documents rest

/-- The document of a plan that may be absent. -/
def Plan.optionDocument : Option Plan → Document
  | none => .null
  | some plan => plan.document

/-- The document of a plan. -/
def Plan.document : Plan → Document
  | ⟨source, joins, filter, projection, groupBy, having, orderBy, window, arms⟩ =>
      .record [("source", source.document), ("joins", .list (Join.documents joins)),
        ("filter", Expr.optionDocument filter), ("projection", .list (Item.documents projection)),
        ("group_by", .list (Expr.documents groupBy)), ("having", Expr.optionDocument having),
        ("order_by", .list (SortKey.documents orderBy)), ("limit", .option Window.document window),
        ("set_ops", .list (Arm.documents arms))]

end

/-! ## Updates and operations -/

/-- The document of assignments. -/
def Assignments.document (assignments : Assignments) : Document :=
  .all
    (fun assignment =>
      .list [.natural assignment.column, .text assignment.name, assignment.value.document])
    assignments

/-- The document of an update. -/
def Update.document (update : Update) : Document :=
  .record [("entity", .text update.entity), ("table", .text update.table),
    ("assignments", Assignments.document update.assignments), ("filter", update.filter.document)]

/-- The name of a step of a transaction. -/
def TransactionStep.name : TransactionStep → String
  | .start => "begin"
  | .commit => "commit"
  | .rollback => "rollback"

/-- The document of an operation. -/
def Operation.document : Operation → Document
  | .query plan => .tagged "query" plan.document
  | .update change => .tagged "update" change.document
  | .transaction step => .tagged "tx" (.text step.name)

end TrackedQuery
