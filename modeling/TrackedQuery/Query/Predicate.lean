import TrackedQuery.Query.Recording

/-!
# Predicates, aggregates and typed expressions

These are the values that a clause body works with.  A predicate is a statement together with the
slot it was recorded in.  Combining two predicates leaves one statement, in the place of the left
one; using a predicate as an operand leaves none.  An aggregate is not recorded: it only matters
where it is used.
-/

namespace TrackedQuery

variable {m : Type → Type} [Monad m] [MonadStateOf Recording m]

/-! ## Typed expressions -/

/-- An expression with the type of its value.  A projection is made of such. -/
abbrev TypedExpr := Item

/-- A literal, with the type a literal is given. -/
def TypedExpr.ofValue (value : Value) : TypedExpr := ⟨.value value, value.inferTy⟩

/-! ## Predicates -/

/-- A statement, and the slot it was recorded in if it was recorded. -/
structure Predicate where
  slot : Option Slot
  expr : Expr

namespace Predicate

/-- Records a statement. -/
def record (expr : Expr) : m Predicate := do
  let slot ← modifyGetThe Recording (·.recordPredicate expr)
  return ⟨slot, expr⟩

/-- Empties the slot of a predicate. -/
def withdraw (predicate : Predicate) : m Unit :=
  match predicate.slot with
  | some slot => modifyThe Recording (·.setSlot slot none)
  | none => return

/-- Puts another statement in the place of a predicate; one that has no place is recorded anew. -/
def become (predicate : Predicate) (expr : Expr) : m Predicate :=
  match predicate.slot with
  | some slot => do
      modifyThe Recording (·.setSlot slot (some expr))
      return ⟨some slot, expr⟩
  | none => record expr

/-- Both predicates, as one statement in the place of the first. -/
def and (lhs rhs : Predicate) : m Predicate := do
  rhs.withdraw
  lhs.become (lhs.expr.and rhs.expr)

/-- Either predicate, as one statement in the place of the first. -/
def or (lhs rhs : Predicate) : m Predicate := do
  rhs.withdraw
  lhs.become (lhs.expr.or rhs.expr)

/-- The negation of a predicate, in its place. -/
def not (predicate : Predicate) : m Predicate := predicate.become (.neg predicate.expr)

/-- A predicate as an operand: it is no longer a statement of its own. -/
def detach (predicate : Predicate) : m TypedExpr := do
  predicate.withdraw
  return ⟨predicate.expr, .bool⟩

end Predicate

/-- What is compared, for messages. -/
inductive Subject where
  | column (name : String)
  | expression
  | aggregate

/-- The name of a subject in messages. -/
def Subject.name : Subject → String
  | .column name => name
  | .expression => "expression"
  | .aggregate => "aggregate"

/-- Reports a type that a subject does not accept. -/
def checkOperand (subject : Subject) (expected found : Ty) : m Unit :=
  if expected.accepts found then return
  else reportError (Cause.typeMismatch subject.name expected found)

/-- Records a comparison.  Operands that cannot meet are reported. -/
def compare (subject : Subject) (op : CompareOp) (lhs rhs : TypedExpr) : m Predicate := do
  checkOperand subject lhs.ty rhs.ty
  Predicate.record (.compare op lhs.expr rhs.expr)

/-- Records a sort key. -/
def sortBy (direction : Direction) (expr : Expr) : m Unit :=
  modifyThe Recording (·.recordSortKey ⟨expr, direction⟩)

/-! ## Aggregates -/

/-- An aggregate over the rows of a group. -/
structure Aggregate where
  function : AggregateFunction
  /-- What is aggregated; rows are counted when it is absent. -/
  argument : Option Expr
  distinct : Bool
  ty : Ty

namespace Aggregate

/-- The number of rows. -/
def countRows : Aggregate := ⟨.count, none, false, .int64⟩

/-- The aggregate as an expression. -/
def toExpr (aggregate : Aggregate) : TypedExpr :=
  ⟨.aggregate aggregate.function aggregate.argument aggregate.distinct, aggregate.ty⟩

/-- Restricts an aggregate to the rows that satisfy a condition: elsewhere its argument is `NULL`,
which aggregates leave out.  Counting rows becomes counting a constant. -/
def restrict (aggregate : Aggregate) (condition : Expr) : Aggregate :=
  { aggregate with
    argument :=
      some (.when condition (aggregate.argument.getD (.value (.int64 1))) .null) }

/-- Restricts an aggregate to the rows that satisfy every statement of a body. -/
def filter (aggregate : Aggregate) (body : m Unit) : m Aggregate := do
  let recorded ← recordInside (.predicates []) body
  return aggregate.restrict (.all recorded.statements)

end Aggregate

end TrackedQuery
