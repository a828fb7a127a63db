import TrackedQuery.Proofs.Session.Store
import TrackedQuery.Proofs.Splitting.Term

/-!
# Queries, in step

A query carries no slots.  So a clause of a nested query, and every other step of one, does the same
on both sides of a seam, provided that its body does one clause further inside.
-/

namespace TrackedQuery

variable {seam : Seam} {site : Site} {depth : Nat} {α : Type}

/-- The body of a clause does the same on both sides of a seam, whichever tables it is given. -/
abbrev BodySame (seam : Seam) (site : Site) (depth : Nat) (body : List TableHandle → SessionM α) :
    Prop :=
  ∀ tables, Same seam site (depth + 1) (body tables)

/-! ## Queries -/

namespace Query

variable (query : Query)

private theorem same_ofConnection (connection : Connection) (base : EntityType) :
    Same seam site depth (ofConnection connection base) :=
  InStep.inContext _ _ _

private theorem same_tableHandles : Same seam site depth query.tableHandles :=
  .readContext fun _ => .pure rfl

/-- Running the body of a clause, and going on with the outcome. -/
theorem same_clause {β : Type} (context : ContextId) (sink : Sink)
    {body : List TableHandle → SessionM α} (same : BodySame seam site depth body)
    {next : Result (α × Sink) → SessionM β}
    (rest : ∀ outcome, Same seam site depth (next outcome)) :
    Same seam site depth
      (query.tableHandles >>= fun tables => recordClause context sink (body tables) >>= next) :=
  query.same_tableHandles.bind fun tables =>
    (InStep.recordClause context sink (same tables)).bind rest

theorem same_filterBy {body : List TableHandle → SessionM Unit}
    (same : BodySame seam site depth body) : Same seam site depth (query.filterBy body) :=
  query.same_clause _ _ same fun _ => .pure rfl

theorem same_orderBy {body : List TableHandle → SessionM Unit}
    (same : BodySame seam site depth body) : Same seam site depth (query.orderBy body) :=
  query.same_clause _ _ same fun _ => .pure rfl

theorem same_filterByKey (id : Value) : Same seam site depth (query.filterByKey id) :=
  .readContext fun _ => .pure rfl

theorem same_joinRows (kind : JoinKind) (entity : String) (rows : Option Plan)
    {body : List TableHandle → SessionM Unit} (same : BodySame seam site depth body) :
    Same seam site depth (query.joinRows kind entity rows body) := by
  refine .readContextFrom fun shape session placed => ?_
  split
  · next error _ =>
      have failed : Same seam site depth (pure (.error error : Result Query)) := .pure rfl
      exact failed shape session placed
  · next table context begun =>
      refine InStep.setContextFrom placed (Context.grows_beginJoin begun).1 ?_
      refine same_clause _ _ _ same fun outcome => ?_
      split
      · exact .pure rfl
      · refine .readContextFrom fun shape session placed => ?_
        exact InStep.setContextFrom placed (Context.grows_completeJoin _ _ _) (.pure rfl)

theorem same_joinQuery (kind : JoinKind) (source : Query)
    {body : List TableHandle → SessionM Unit} (same : BodySame seam site depth body) :
    Same seam site depth (query.joinQuery kind source body) := by
  refine (InStep.compile source).bind fun outcome => ?_
  cases outcome with
  | error error => exact .pure rfl
  | ok rows => exact query.same_joinRows kind _ (some rows) same

theorem same_stack (op : SetOperator) (other : Query) :
    Same seam site depth (query.stack op other) :=
  (InStep.compile query).bind fun _ => (InStep.compile other).bind fun _ => .pure rfl

end Query

/-! ## Projections and groups -/

private theorem ProjectedQuery.same_ofQuery (query : Query) (items : List Item)
    (grouping : Option Grouping) :
    Same seam site depth (ProjectedQuery.ofQuery query items grouping) :=
  (InStep.compileProjection _).map fun _ => rfl

theorem ProjectedQuery.same_stack (query : ProjectedQuery) (op : SetOperator)
    (other : ProjectedQuery) : Same seam site depth (query.stack op other) :=
  (InStep.compileProjection query).bind fun _ =>
    (InStep.compileProjection other).bind fun _ => .pure rfl

theorem Query.same_select (query : Query) {body : List TableHandle → SessionM (List Item)}
    (same : BodySame seam site depth body) : Same seam site depth (query.select body) := by
  refine query.same_clause _ _ same fun outcome => ?_
  split
  · exact .pure rfl
  · exact ProjectedQuery.same_ofQuery _ _ _

theorem Query.same_groupBy (query : Query) {body : List TableHandle → SessionM (List Item)}
    (same : BodySame seam site depth body) : Same seam site depth (query.groupBy body) :=
  query.same_clause _ _ same fun _ => .pure rfl

namespace GroupedQuery

variable (query : GroupedQuery)

theorem same_having {body : List TableHandle → SessionM Unit}
    (same : BodySame seam site depth body) : Same seam site depth (query.having body) :=
  query.query.same_clause _ _ same fun _ => .pure rfl

theorem same_orderBy {body : List TableHandle → SessionM Unit}
    (same : BodySame seam site depth body) : Same seam site depth (query.orderBy body) :=
  (query.query.same_orderBy same).map fun _ => rfl

theorem same_select {body : List TableHandle → SessionM (List Item)}
    (same : BodySame seam site depth body) : Same seam site depth (query.select body) := by
  refine query.query.same_clause _ _ same fun outcome => ?_
  split
  · exact .pure rfl
  · exact ProjectedQuery.same_ofQuery _ _ _

end GroupedQuery

/-! ## What is apart from queries -/

section Apart

variable {run : SessionM α}

/-- A computation that does not depend on what is recorded and kept. -/
theorem SessionM.Apart.same (apart : SessionM.Apart run)
    (passes : ∀ session, run (seam.session depth session) =
      ((run session).1, seam.session depth (run session).2)) : Same seam site depth run := by
  intro shape session placed
  obtain ⟨recording, terms, stages, -⟩ := apart session
  refine ⟨passes session, ?_, ?_, ?_⟩
  · rw [recording]
    exact placed.recording
  · rw [terms]
    exact placed.plain
  · rw [stages]
    exact placed.stages

end Apart

namespace Session

theorem same_observe (observation : Observation) : Same seam site depth (observe observation) :=
  (apart_observe observation).same fun _ => rfl

theorem same_typeOf (name : String) : Same seam site depth (typeOf name) :=
  (apart_typeOf name).same fun _ => rfl

private theorem same_finishTask (task : Result Task) (saveAs : Option String) :
    Same seam site depth (finishTask task saveAs) := by
  unfold finishTask
  split
  · exact .pure rfl
  · refine ((apart_inWorld _).same fun _ => rfl).bind fun outcome => ?_
    dsimp only [id]
    split
    · exact .pure rfl
    · split
      · exact .pure rfl
      · exact ((apart_saveInstances _ _).same fun _ => rfl).bind fun _ => .pure rfl

private theorem request_session (stage : Stage) (session : Session) (question : Question) :
    stage.request (seam.session depth session) question = stage.request session question := by
  cases stage <;> rfl

theorem same_ask (stage : Stage) (ending : Ending) : Same seam site depth (ask stage ending) := by
  refine .readSession fun session => ?_
  rw [request_session]
  split
  · exact .pure rfl
  · split
    · exact ((apart_keepFlight _ _).same fun _ => rfl).bind fun _ => .pure rfl
    · exact (same_finishTask _ _).map fun _ => rfl

theorem same_begin (beginning : Beginning) : Same seam site depth (begin beginning) := by
  cases beginning with
  | entity connection name =>
      refine .readSession fun session => ?_
      have named : (seam.session depth session).connectionNamed connection =
          session.connectionNamed connection := rfl
      rw [named]
      split
      · exact .pure rfl
      · exact (Query.same_ofConnection _ _).map fun _ => rfl
  -- a query that is kept has no slots, so it is the same on both sides
  | kept name =>
      refine .modifySession fun shape session placed => ?_
      dsimp only [Seam.session]
      split
      · exact ⟨rfl, placed⟩
      · refine ⟨rfl, placed.recording, placed.plain, fun entry mem => ?_⟩
        exact placed.stages entry (List.mem_of_mem_filter mem)

end Session

end TrackedQuery
