import TrackedQuery.Program.Ask

/-!
# Evaluating programs

Forms are evaluated from the inside out and from left to right, a receiver before its arguments.
After an error the rest of a body is still evaluated; its clause answers the first error.  The first
step that fails ends a program.

The frames list the clauses around a form, innermost first.  A clause adds a frame for its body; the
filter of an aggregate does not, because it has no tables of its own.  Tables are found in every
frame, keys only in the innermost one: the clauses of a query that is nested in a clause of a
grouped query have no keys, but may use a key that was kept outside of them.
-/

namespace TrackedQuery

/-- What the forms in a clause body refer to. -/
structure Frame where
  tables : List TableHandle
  /-- The keys, in a clause of a grouped query. -/
  keys : Option (List Item)

namespace Frame

/-- A table of a clause, counted outwards. -/
def tableAt (frames : List Frame) (index outwards : Nat) : Term :=
  match (frames[outwards]?.bind fun frame => frame.tables[index]?) with
  | some handle => .table handle
  | none => .nothing

/-- The keys of the innermost clause, if it is one of a grouped query. -/
def keys? (frames : List Frame) : Option (List Item) := frames.head?.bind Frame.keys

end Frame

namespace Session

/-- A key of the innermost clause.  The observer is told if the clause has no keys. -/
def keyAt (frames : List Frame) (index : Nat) : SessionM Term :=
  match Frame.keys? frames with
  | some keys => return .expr (GroupedQuery.keyAt keys index)
  | none => do
      observe .noKey
      return .nothing

/-- The entity type of the given name. -/
def typeOf (name : String) : SessionM EntityType := return (← getThe Session).typeNamed name

/-- Where a program begins.  A query that was kept is kept no longer. -/
def begin : Beginning → SessionM (Result Stage)
  | .entity connection name => do
      let session ← getThe Session
      match session.connectionNamed connection with
      | .error error => return .error error
      | .ok connection =>
          return .ok (.query (← Query.ofConnection connection (session.typeNamed name)))
  | .kept name =>
      modifyGetThe Session fun session =>
        match session.stages.get? name with
        | none => (fail (.adhoc ("unknown query " ++ named name)), session)
        | some stage => (.ok stage, { session with stages := session.stages.remove name })

end Session

/-- The error of a program inside a step is an error of that step. -/
def StepFailure.forget {α : Type} (outcome : Except StepFailure α) : Result α :=
  outcome.mapError StepFailure.error

mutual

/-- The value of a form. -/
def Form.evaluate (frames : List Frame) : Form → SessionM Term
  | .table index outwards => return Frame.tableAt frames index outwards
  | .navigate table name entity => do
      let table ← table.evaluate frames
      table.navigate name entity
  | .column table name scalar => do
      let table ← table.evaluate frames
      table.column? name scalar
  | .allColumns table => do
      let table ← table.evaluate frames
      table.allColumns
  | .key index => Session.keyAt frames index
  | .literal value => return .literal value
  | .typed expr => return .expr expr
  | .toExpr form => do
      let term ← form.evaluate frames
      return .expr (← term.toExpr)
  | .byReference form => do
      let term ← form.evaluate frames
      return term.byReference
  | .compare op lhs rhs => do
      let lhs ← lhs.evaluate frames
      let rhs ← rhs.evaluate frames
      Term.compare op lhs rhs
  | .matchText column kind text => do
      let column ← column.evaluate frames
      column.matchText kind text
  | .inList column items negated => do
      let column ← column.evaluate frames
      let items ← Form.evaluateAll frames items
      column.inList items negated
  | .between column lower upper => do
      let column ← column.evaluate frames
      let lower ← lower.evaluate frames
      let upper ← upper.evaluate frames
      Term.between lower upper column
  | .inQuery column entity steps => do
      let column ← column.evaluate frames
      let base ← Session.typeOf entity
      column.inQuery base fun nested => do
        let outcome ← Step.evaluateAll frames 0 (.query nested) steps
        return (StepFailure.forget outcome).bind Stage.toProjected
  | .isNull operand negated => do
      let operand ← operand.evaluate frames
      operand.isNull negated
  | .sortBy operand direction => do
      let operand ← operand.evaluate frames
      operand.sortBy direction
  | .aggregate column function distinct => do
      let column ← column.evaluate frames
      column.aggregate? function distinct
  | .countRows => return .aggregate .countRows
  | .restrict aggregate body => do
      let aggregate ← aggregate.evaluate frames
      aggregate.restrict (Form.run frames body)
  | .anyRow table entity steps negated => do
      let table ← table.evaluate frames
      let base ← Session.typeOf entity
      table.anyRow base negated fun nested => do
        let outcome ← Step.evaluateAll frames 0 (.query nested) steps
        return (StepFailure.forget outcome).bind Stage.toQuery
  | .and lhs rhs => do
      let lhs ← lhs.evaluate frames
      let rhs ← rhs.evaluate frames
      lhs.and rhs
  | .or lhs rhs => do
      let lhs ← lhs.evaluate frames
      let rhs ← rhs.evaluate frames
      lhs.or rhs
  | .not operand => do
      let operand ← operand.evaluate frames
      operand.not
  | .keep name form => do
      let term ← form.evaluate frames
      Session.keepTerm name term
      return .nothing
  | .kept name => Session.takeTerm name
  | .observe form => do
      let term ← form.evaluate frames
      Session.observe (.view (← term.view))
      return term

/-- The values of forms, in order. -/
def Form.evaluateAll (frames : List Frame) : List Form → SessionM (List Term)
  | [] => return []
  | form :: rest => do
      let term ← form.evaluate frames
      return term :: (← Form.evaluateAll frames rest)

/-- Evaluates the forms of a body for what they record. -/
def Form.run (frames : List Frame) : List Form → SessionM Unit
  | [] => return
  | form :: rest => do
      let _ ← form.evaluate frames
      Form.run frames rest

/-- The stage of a query after a step. -/
def Step.evaluate (frames : List Frame) (stage : Stage) : Step → SessionM (Result Stage)
  | .filterBy body =>
      match stage with
      | .query built => do
          return (← built.filterBy fun tables =>
            Form.run (⟨tables, none⟩ :: frames) body).map .query
      | _ => return .ok stage
  | .filterByIf condition body =>
      match stage with
      | .query built => do
          if condition then
            return (← built.filterBy fun tables =>
              Form.run (⟨tables, none⟩ :: frames) body).map .query
          else return .ok stage
      | _ => return .ok stage
  | .filterByKey id =>
      match stage with
      | .query built => do return (← built.filterByKey id).map .query
      | _ => return .ok stage
  | .orderBy body =>
      match stage with
      | .query built => do
          return (← built.orderBy fun tables =>
            Form.run (⟨tables, none⟩ :: frames) body).map .query
      | .grouped built => do
          return (← built.orderBy fun tables =>
            Form.run (⟨tables, some built.keys⟩ :: frames) body).map .grouped
      | _ => return .ok stage
  | .join kind entity body =>
      match stage with
      | .query built => do
          return (← built.join kind entity fun tables =>
            Form.run (⟨tables, none⟩ :: frames) body).map .query
      | _ => return .ok stage
  | .joinQuery kind source body =>
      match stage with
      | .query built => do
          match (StepFailure.forget (← source.evaluate frames)).bind Stage.toQuery with
          | .error error => return .error error
          | .ok source =>
              return (← built.joinQuery kind source fun tables =>
                Form.run (⟨tables, none⟩ :: frames) body).map .query
      | _ => return .ok stage
  | .asTable table =>
      match stage with
      | .query built => return .ok (.query (built.asTable table))
      | _ => return .ok stage
  | .asTracking =>
      match stage with
      | .query built => return .ok (.query built.asTracking)
      | _ => return .ok stage
  | .withDeleted =>
      match stage with
      | .query built => return .ok (.query built.withDeleted)
      | _ => return .ok stage
  | .limit limit =>
      match stage with
      | .query built => return .ok (.query (built.limit limit))
      | .projected built => return .ok (.projected (built.limit limit))
      | .grouped _ => return .ok stage
  | .offset offset =>
      match stage with
      | .query built => return .ok (.query (built.offset offset))
      | .projected built => return .ok (.projected (built.offset offset))
      | .grouped _ => return .ok stage
  | .stack op other => do
      let other := StepFailure.forget (← other.evaluate frames)
      match stage with
      | .query built =>
          match other.bind Stage.toQuery with
          | .error error => return .error error
          | .ok other => return (← built.stack op other).map .query
      | .projected built =>
          match other.bind Stage.toProjected with
          | .error error => return .error error
          | .ok other => return (← built.stack op other).map .projected
      | .grouped _ => return .ok stage
  | .select body counted =>
      match stage with
      | .query built => do
          return (← built.select fun tables => do
            Term.toItemsAll
              (← Form.evaluateAll (⟨tables, none⟩ :: frames) body)).map .projected
      | .grouped built => do
          return (← built.select fun tables => do
            if counted then Session.observe (.counted built.keys.length tables.length)
            Term.toItemsAll
              (← Form.evaluateAll (⟨tables, some built.keys⟩ :: frames) body)).map .projected
      | .projected _ => return .ok stage
  | .groupBy body =>
      match stage with
      | .query built => do
          return (← built.groupBy fun tables => do
            Term.toItemsAll (← Form.evaluateAll (⟨tables, none⟩ :: frames) body)).map .grouped
      | _ => return .ok stage
  | .having body =>
      match stage with
      | .grouped built => do
          return (← built.having fun tables =>
            Form.run (⟨tables, some built.keys⟩ :: frames) body).map .grouped
      | _ => return .ok stage
  | .ask ending => do
      Session.observe (.reply (← Session.ask stage ending))
      return .ok stage

/-- The stage of a query after steps, the first of which has the given position. -/
def Step.evaluateAll (frames : List Frame) (position : Nat) (stage : Stage) :
    List Step → SessionM (Except StepFailure Stage)
  | [] => return .ok stage
  | step :: rest => do
      match ← step.evaluate frames stage with
      | .error error => return .error ⟨position, error⟩
      | .ok stage => Step.evaluateAll frames (position + 1) stage rest

/-- The stage at which a program ends. -/
def Program.evaluate (frames : List Frame) : Program → SessionM (Except StepFailure Stage)
  | ⟨beginning, steps⟩ => do
      match ← Session.begin beginning with
      | .error error => return .error ⟨0, error⟩
      | .ok stage => Step.evaluateAll frames 0 stage steps

end

end TrackedQuery
