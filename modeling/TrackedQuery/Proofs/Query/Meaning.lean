import Mathlib.Data.List.Forall2
import TrackedQuery.Proofs.Plan.Truth
import TrackedQuery.Proofs.Result
import TrackedQuery.Query.Compile

/-!
# What a compiled plan asks for

The filter of a plan means that every statement of the clauses holds and that the row of the base
table is not marked as deleted, if such rows are left out.  The condition of a join means what was
recorded, and that the row of the joined table is not marked as deleted; a join of nested rows keeps
its condition (`Plan.Means`, `Plan.means_of_compile`).
-/

namespace TrackedQuery

/-- The truth value of a condition that may be absent: nothing is asked for then. -/
def Environment.truthOption (env : Environment) (condition : Option Expr) : Truth :=
  (condition.map env.truth).getD (some true)

/-- A join of a plan asks for what was recorded for it, and leaves rows marked as deleted out if it
should and if it joins a table. -/
def Join.Means (schema : Schema) (leavesOutDeleted : Bool) (recorded planned : Join) : Prop :=
  planned = { recorded with condition := planned.condition } ∧
    if recorded.isNested = true ∨ leavesOutDeleted = false then
      planned.condition = recorded.condition
    else
      ∃ target, schema.resolve recorded.entity = .ok target ∧ ∀ env : Environment,
        env.truth planned.condition =
          (env.truth recorded.condition).and (target.rowAlive env recorded.tableAlias)

/-- A plan asks for what the clauses of a query and the joins of its context say, and leaves rows
marked as deleted out if both the database and the query do. -/
structure Plan.Means (context : Context) (clauses : Clauses) (plan : Plan) : Prop where
  /-- The base table is the one of the context. -/
  base : ∃ entity, context.schema.resolve context.base = .ok entity ∧
    plan.source.entity = entity.name ∧ plan.source.tableAlias = baseAlias ∧
    ∀ env : Environment, env.truthOption plan.filter =
      (Truth.all (clauses.filter.map env.truth)).and
        (if clauses.leavesOutDeleted context then entity.rowAlive env baseAlias else some true)
  /-- The joins are those of the context, in their order. -/
  joins : List.Forall₂ (Join.Means context.schema (clauses.leavesOutDeleted context)) context.joins
    plan.joins

private theorem Environment.truthOption_condition? (env : Environment) (statements : List Expr) :
    env.truthOption (condition? statements) = Truth.all (statements.map env.truth) := by
  rw [← env.truth_all]
  unfold condition?
  dsimp only
  split
  · next literal => simp [Expr.eq_truth_of_isTrue literal, truthOption]
  · rfl

/-! ## Joins -/

namespace Join

private theorem means_self {schema : Schema} {leavesOutDeleted : Bool} {join : Join}
    (untouched : join.isNested = true ∨ leavesOutDeleted = false) :
    Means schema leavesOutDeleted join join := by
  refine ⟨?_, by rw [if_pos untouched]⟩
  cases join
  rfl

private theorem means_of_keepAlive {schema : Schema} {recorded planned : Join}
    (kept : recorded.keepAlive schema = .ok planned) : Means schema true recorded planned := by
  unfold keepAlive at kept
  split at kept
  · next nested =>
      cases kept
      exact means_self (.inl nested)
  · next notNested =>
      obtain ⟨target, hresolve, kept⟩ := Result.bind_eq_ok.mp kept
      have marked := target.truth_alive
      cases halive : target.alive? recorded.tableAlias with
      | some condition =>
          rw [halive] at kept
          cases kept
          refine ⟨rfl, ?_⟩
          rw [if_neg (by simp [notNested])]
          refine ⟨target, hresolve, fun env => ?_⟩
          rw [← marked env, halive, env.truth_and]
          simp
      | none =>
          -- the joined entity has no delete mark, so there is nothing to add
          rw [halive] at kept
          cases kept
          refine ⟨by cases recorded; rfl, ?_⟩
          rw [if_neg (by simp [notNested])]
          refine ⟨target, hresolve, fun env => ?_⟩
          rw [← marked env, halive]
          simp

private theorem means_of_keepAllAlive {schema : Schema} {recorded planned : List Join}
    (kept : keepAllAlive schema recorded = .ok planned) :
    List.Forall₂ (Means schema true) recorded planned := by
  induction recorded generalizing planned with
  | nil =>
      cases kept
      exact .nil
  | cons join rest ih =>
      obtain ⟨first, hfirst, kept⟩ := Result.bind_eq_ok.mp kept
      obtain ⟨others, hothers, kept⟩ := Result.bind_eq_ok.mp kept
      cases kept
      exact .cons (means_of_keepAlive hfirst) (ih hothers)

private theorem means_of_planJoins {clauses : Clauses} {context : Context} {joins : List Join}
    (planned : clauses.planJoins context = .ok joins) :
    List.Forall₂ (Means context.schema (clauses.leavesOutDeleted context)) context.joins joins := by
  unfold Clauses.planJoins at planned
  split at planned
  · next leavesOut =>
      rw [leavesOut]
      exact means_of_keepAllAlive planned
  · next keeps =>
      cases planned
      exact List.forall₂_same.mpr fun join _ => means_self (.inr (by simpa using keeps))

end Join

/-! ## Plans -/

/-- What a plan is made of, if the clauses compile. -/
theorem Clauses.compile_eq_ok {clauses : Clauses} {context : Context}
    {projection : Option (List Item)} {grouping : Option Grouping} {plan : Plan}
    (compiled : clauses.compile context projection grouping = .ok plan) :
    ∃ entity items joins, context.schema.resolve context.base = .ok entity ∧
      projectionOf entity projection = .ok items ∧ clauses.planJoins context = .ok joins ∧
      plan =
        { source :=
            ⟨entity.name, clauses.tableName.getD entity.table, baseAlias, some context.id⟩
          joins := joins
          filter := condition? (clauses.planStatements context entity)
          projection := items
          groupBy := (grouping.map Grouping.keys).getD []
          having := grouping.bind fun grouping => condition? grouping.having
          orderBy := clauses.orderBy
          window := clauses.window?
          arms := clauses.arms } := by
  obtain ⟨entity, hentity, compiled⟩ := Result.bind_eq_ok.mp compiled
  obtain ⟨items, hitems, compiled⟩ := Result.bind_eq_ok.mp compiled
  obtain ⟨joins, hjoins, compiled⟩ := Result.bind_eq_ok.mp compiled
  obtain ⟨_, -, compiled⟩ := Result.bind_eq_ok.mp compiled
  obtain ⟨_, -, compiled⟩ := Result.bind_eq_ok.mp compiled
  cases compiled
  exact ⟨entity, items, joins, hentity, hitems, hjoins, rfl⟩

/-- Clauses that compile become a plan that asks for what they say. -/
theorem Plan.means_of_compile {clauses : Clauses} {context : Context}
    {projection : Option (List Item)} {grouping : Option Grouping} {plan : Plan}
    (compiled : clauses.compile context projection grouping = .ok plan) :
    plan.Means context clauses := by
  obtain ⟨entity, items, joins, hentity, -, hjoins, rfl⟩ := Clauses.compile_eq_ok compiled
  refine ⟨⟨entity, hentity, rfl, rfl, fun env => ?_⟩, Join.means_of_planJoins hjoins⟩
  rw [env.truthOption_condition?, Clauses.planStatements]
  -- the condition on the base table comes last, if there is one
  split
  · rw [List.map_append, Truth.all_append, entity.truth_alive]
  · rw [Truth.and_true]

end TrackedQuery
