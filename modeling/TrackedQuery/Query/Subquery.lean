import TrackedQuery.Query

/-!
# Nested queries as predicates

A nested query is built by a body, in a context inside the one of the clause being built.  Outside
of every clause the context of the handle it is asked of takes that place.  When the nested query
cannot be built, its error is reported to the surrounding clause and `NULL` is recorded in its
stead.
-/

namespace TrackedQuery

variable {m : Type → Type} [Monad m] [MonadStateOf Recording m]

/-- The context that a nested query is built in. -/
def Recording.innermostContext? (recording : Recording) : Option ContextId :=
  recording.active?.map Recorder.context

/-- Records a predicate that could be built, or else reports the error. -/
def Predicate.recordResult (built : Result Expr) : m Predicate :=
  match built with
  | .ok expr => record expr
  | .error error => do
      reportError error
      record .null

/-- The nested query has a row, or has none. -/
def TableHandle.anyRow (table : TableHandle) (base : EntityType) (negated : Bool)
    (body : Query → m (Result Query)) : m Predicate := do
  let parent := (← getThe Recording).innermostContext?.getD table.context
  let nested ← Query.nestedIn parent base
  match ← body nested with
  | .error error => Predicate.recordResult (.error error)
  | .ok query => Predicate.recordResult ((← query.compile).map fun plan => .anyRow plan negated)

/-- A membership test, provided that the nested rows have one column of a type that the operand
meets. -/
def membership (name : String) (operand : TypedExpr) (plan : Plan) : Result Expr :=
  match plan.shape with
  | [ty] =>
      if operand.ty.accepts ty then .ok (.inQuery operand.expr plan false)
      else fail (.invalidProjection (.membershipShape name operand.ty [ty]))
  | shape => fail (.invalidProjection (.membershipShape name operand.ty shape))

/-- The column is among the rows of a nested projection. -/
def ColumnHandle.inQuery (column : ColumnHandle) (base : EntityType)
    (body : Query → m (Result ProjectedQuery)) : m Predicate := do
  let operand ← column.toExpr
  let parent :=
    (← getThe Recording).innermostContext? <|> column.source.map ColumnSource.context
  match parent with
  | none => Predicate.recordResult (fail (.invalidStatement .membershipOutsideClause))
  | some parent => do
      let nested ← Query.nestedIn parent base
      match ← body nested with
      | .error error => Predicate.recordResult (.error error)
      | .ok projected =>
          Predicate.recordResult ((← projected.compile).bind (membership column.name operand))

end TrackedQuery
