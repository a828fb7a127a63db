import TrackedQuery.Program

/-!
# Values of forms

What forms of clause bodies yield, and how such a value is used as an operand, as projected items
and as something to observe.
-/

namespace TrackedQuery

variable {m : Type → Type} [Monad m] [MonadStateOf Recording m]

/-- The value of a form. -/
inductive Term where
  | table (handle : TableHandle)
  | column (handle : ColumnHandle)
  | columns (items : List Item)
  | expr (expr : TypedExpr)
  | aggregate (aggregate : Aggregate)
  | predicate (predicate : Predicate)
  /-- A predicate by reference. -/
  | reference (predicate : Predicate)
  | literal (value : Value)
  | nothing

/-- What an observer sees of a value. -/
inductive View where
  /-- The alias and the entity of a table that stands for something. -/
  | table (binding : Option (Alias × String))
  | column (name : String) (ty : Ty) (expr : Expr)
  | columns
  | expr (expr : TypedExpr)
  | aggregate (expr : TypedExpr)
  | predicate (expr : Expr)
  | literal (value : Value)
  | nothing

namespace Term

/-- A value as an operand.  A column is read, and a predicate ceases to be a statement of its own
unless it is only referred to. -/
def toExpr : Term → m TypedExpr
  | .column handle => handle.toExpr
  | .expr operand => return operand
  | .aggregate operand => return operand.toExpr
  | .predicate operand => operand.detach
  | .reference operand => return ⟨operand.expr, .bool⟩
  | .literal operand => return .ofValue operand
  | .table _ | .columns _ | .nothing => return .ofValue .null

/-- A value as projected items.  Columns, expressions, aggregates and predicates can be projected.
Anything else adds no item: a literal has to be made an expression first. -/
def toItems : Term → m (List Item)
  | .columns items => return items
  | .column handle => return [← handle.toItem]
  | .expr operand => return [operand]
  | .aggregate operand => return [operand.toExpr]
  | .predicate operand => return [← operand.detach]
  | .table _ | .reference _ | .literal _ | .nothing => return []

/-- Values as projected items, in order. -/
def toItemsAll : List Term → m (List Item)
  | [] => return []
  | term :: rest => do
      let items ← term.toItems
      return items ++ (← toItemsAll rest)

/-- What a value is called when it is compared. -/
def subject : Term → Subject
  | .column handle => handle.subject
  | .aggregate _ => .aggregate
  | _ => .expression

/-- A value by reference.  Only of a predicate this makes a difference: its statement stays. -/
def byReference : Term → Term
  | .predicate operand => .reference operand
  | term => term

/-- Whether reading a kept value leaves nothing behind. -/
def isMoved : Term → Bool
  | .predicate _ | .aggregate _ => true
  | _ => false

/-- What an observer sees of a value.  A column is read for it. -/
def view : Term → m View
  | .table handle =>
      return .table (handle.binding.map fun binding => (binding.tableAlias, binding.entity))
  | .column handle => do
      let operand ← handle.toExpr
      return .column handle.name handle.ty operand.expr
  | .columns _ => return .columns
  | .expr operand => return .expr operand
  | .aggregate operand => return .aggregate operand.toExpr
  | .predicate operand | .reference operand => return .predicate operand.expr
  | .literal operand => return .literal operand
  | .nothing => return .nothing

/-! ## Functions of terms

A function of a value of another kind than it is meant for yields nothing. -/

/-- The table that a navigation of a table leads to. -/
def navigate (name entity : String) : Term → m Term
  | .table handle => return .table (← handle.navigate name entity)
  | _ => return .nothing

/-- A column of a table. -/
def column? (name : String) (scalar : Scalar) : Term → m Term
  | .table handle => return .column (← handle.column name scalar)
  | _ => return .nothing

/-- All columns of a table. -/
def allColumns : Term → m Term
  | .table handle => return .columns (← handle.allColumns)
  | _ => return .nothing

/-- A comparison.  The left operand is read before the right one. -/
def compare (op : CompareOp) (lhs rhs : Term) : m Term := do
  let left ← lhs.toExpr
  let right ← rhs.toExpr
  return .predicate (← TrackedQuery.compare lhs.subject op left right)

/-- A text match of a column. -/
def matchText (kind : TextMatch) (text : String) : Term → m Term
  | .column handle => return .predicate (← handle.matchText kind text)
  | _ => return .nothing

/-- Items that a column is compared with, in order. -/
def listItems (column : ColumnHandle) : List Term → m (List Expr)
  | [] => return []
  | item :: rest => do
      let operand ← item.toExpr
      let expr ← column.listItem operand
      return expr :: (← listItems column rest)

/-- Membership of a column in a list.  The items are read before the column. -/
def inList (items : List Term) (negated : Bool) : Term → m Term
  | .column handle => do
      let exprs ← listItems handle items
      return .predicate (← handle.inList exprs negated)
  | _ => return .nothing

/-- A column between bounds. -/
def between (lower upper : Term) : Term → m Term
  | .column handle => return .predicate (← handle.between lower.toExpr upper.toExpr)
  | _ => return .nothing

/-- A test for `NULL`. -/
def isNull (negated : Bool) (operand : Term) : m Term := do
  let tested ← operand.toExpr
  return .predicate (← Predicate.record (.isNull tested.expr negated))

/-- A sort key. -/
def sortBy (direction : Direction) (operand : Term) : m Term := do
  let key ← operand.toExpr
  TrackedQuery.sortBy direction key.expr
  return .nothing

/-- An aggregate of a column. -/
def aggregate? (function : AggregateFunction) (distinct : Bool) : Term → m Term
  | .column handle => return .aggregate (← handle.aggregate function distinct)
  | _ => return .nothing

/-- An aggregate over the rows that satisfy the statements of a body. -/
def restrict (body : m Unit) : Term → m Term
  | .aggregate operand => return .aggregate (← operand.filter body)
  | _ => return .nothing

/-- Both of two predicates. -/
def and : Term → Term → m Term
  | .predicate lhs, .predicate rhs => return .predicate (← lhs.and rhs)
  | _, _ => return .nothing

/-- Either of two predicates. -/
def or : Term → Term → m Term
  | .predicate lhs, .predicate rhs => return .predicate (← lhs.or rhs)
  | _, _ => return .nothing

/-- The negation of a predicate. -/
def not : Term → m Term
  | .predicate operand => return .predicate (← operand.not)
  | _ => return .nothing

/-- A nested query has a row, or has none. -/
def anyRow (base : EntityType) (negated : Bool) (body : Query → m (Result Query)) :
    Term → m Term
  | .table handle => return .predicate (← handle.anyRow base negated body)
  | _ => return .nothing

/-- A column is among the rows of a nested projection. -/
def inQuery (base : EntityType) (body : Query → m (Result ProjectedQuery)) : Term → m Term
  | .column handle => return .predicate (← handle.inQuery base body)
  | _ => return .nothing

end Term

end TrackedQuery
