import TrackedQuery.Proofs.Session.Clause
import TrackedQuery.Proofs.Session.Handle
import TrackedQuery.Proofs.Session.Projection

/-!
# Nested queries

A nested query gets a context of its own, around which are the contexts in scope where it is
written.  So the levels around its plan are the levels of the closure, and a test of its rows is
valid in the closure.  The body of a nested query has to answer a query in the context that was made
for it, whose plan is as the rule asks of plans.
-/

namespace TrackedQuery

variable {scheme : Scheme} {start : Recording} {closure : Closure} {outer : List Closure}

/-- The body of a nested query, as it is run on a new query over the base inside the closure, and
the stages that its answers stand for. -/
def NestedKept (scheme : Scheme) (start : Recording) (closure : Closure) (outer : List Closure)
    (base : EntityType) {α : Type} (body : Query → SessionM (Result α)) (stage : α → Stage) :
    Prop :=
  ∀ recording (nested : Query) (enclosing : List ContextId), start.Grows recording →
    nested.Made scheme.rule base enclosing recording →
    Keeps scheme recording (closure :: outer) (body nested) (closure :: outer)
      (fun later outcome => Result.Meets scheme.rule
        (fun answer => (stage answer).Valid scheme.rule later ∧
          (stage answer).Admitted scheme.rule later ∧ (stage answer).context = nested.context)
        outcome)

private theorem Recording.Sound.innermostContext? {rule : Rule} {recording : Recording}
    {context : ContextId} {stack : List ContextId}
    (sound : recording.Sound rule (context :: stack)) :
    recording.innermostContext? = some context := by
  obtain ⟨recorder, rest, hrecorders, rfl, -⟩ := sound.innermost
  rw [Recording.innermostContext?, Recording.active?, hrecorders]
  rfl

/-- The levels around a nested query are those of the closure that it is written in. -/
theorem Recording.Grows.around_nested {before after : Recording} (grows : before.Grows after)
    {context nested : ContextId} (parent_known : context < before.contexts.length)
    (known : nested < before.contexts.length)
    (enclosing : (before.contextAt nested).enclosing = before.scope context) :
    after.around nested = after.levels context := by
  have scopes : (after.contextAt nested).enclosing = after.scope context :=
    calc (after.contextAt nested).enclosing
        = (before.contextAt nested).enclosing := grows.enclosing known
      _ = before.scope context := enclosing
      _ = after.scope context := (grows.scope parent_known).symm
  rw [Recording.around, scopes, Recording.levels]

private theorem Keeps.recordResult {built : Result Expr}
    (meets : Result.Meets scheme.rule
      (fun expr => expr.ValidIn scheme.rule start closure.context) built) :
    Keeps scheme start (closure :: outer) (Predicate.recordResult built) (closure :: outer)
      (fun recording predicate =>
        predicate.expr.ValidIn scheme.rule recording closure.context) := by
  cases built with
  | ok expr => exact record (meets.holds expr rfl)
  | error error =>
      refine (reportError (meets.tame error rfl)).bind fun recording _ _ _ => record ?_
      exact Expr.obeys_value .null

private theorem isTame_membership {rule : Rule} (name : String) (operand : TypedExpr)
    (plan : Plan) :
    Result.IsTame rule (membership name operand plan) := by
  unfold membership
  split
  · split
    · exact Result.isTame_ok _
    · exact Result.isTame_fail (by simp)
  · exact Result.isTame_fail (by simp)

private theorem obeys_membership {rule : Rule} {around : List Level} {name : String}
    {operand : TypedExpr} {plan : Plan} (operand_obeys : operand.expr.Obeys rule around)
    (obeys : plan.Obeys rule around) {expr : Expr}
    (tested : membership name operand plan = .ok expr) : expr.Obeys rule around := by
  unfold membership at tested
  split at tested
  · split at tested
    · cases tested
      exact ⟨operand_obeys, obeys⟩
    · cases tested
  · cases tested

/-- What is the same for both tests of nested rows: the nested query is made and its body is run. -/
theorem Keeps.nested {α β : Type} {base : EntityType} {body : Query → SessionM (Result α)}
    {stage : α → Stage} (kept : NestedKept scheme start closure outer base body stage)
    (parent_known : closure.context < start.contexts.length) {next : Result α → SessionM β}
    {post : Recording → β → Prop}
    (rest : ∀ recording outcome, start.Grows recording →
      Result.Meets scheme.rule (fun answer => (stage answer).Valid scheme.rule recording ∧
        (stage answer).Admitted scheme.rule recording ∧
        recording.around (stage answer).context = recording.levels closure.context) outcome →
      Keeps scheme recording (closure :: outer) (next outcome) (closure :: outer) post) :
    Keeps scheme start (closure :: outer)
      (Query.nestedIn closure.context base >>= fun nested => body nested >>= next)
      (closure :: outer) post := by
  refine (Query.keeps_nestedIn parent_known base).bind fun first nested grows made => ?_
  refine (kept first nested _ grows made).bind fun second outcome further meets => ?_
  refine rest second outcome (grows.trans further) ?_
  refine meets.mono fun answer ⟨valid, admitted, same⟩ => ⟨valid, admitted, ?_⟩
  -- the levels of the closure are those of the time when the nested query is compiled
  have known_first := Nat.lt_of_lt_of_le parent_known grows.length
  have enclosing := made.enclosing
  rw [← grows.scope parent_known] at enclosing
  rw [same]
  exact further.around_nested known_first made.sound.valid.known enclosing

private theorem Keeps.anyRow (table : TableHandle) {base : EntityType} (negated : Bool)
    {body : Query → SessionM (Result Query)}
    (kept : NestedKept scheme start closure outer base body .query) :
    Keeps scheme start (closure :: outer) (table.anyRow base negated body) (closure :: outer)
      (fun recording predicate =>
        predicate.expr.ValidIn scheme.rule recording closure.context) := by
  refine .read fun sound => ?_
  have parent_known := sound.known closure.context (List.mem_cons_self ..)
  rw [List.map_cons] at sound
  rw [sound.innermostContext?, Option.getD_some]
  refine nested kept parent_known fun recording outcome _ meets => ?_
  split
  · next error => exact recordResult (Result.meets_error (meets.tame error rfl))
  · next query =>
      obtain ⟨valid, admitted, around⟩ := meets.holds query rfl
      refine (Query.keeps_compile valid).bind fun later plan _ ⟨same, plan_meets⟩ => ?_
      subst same
      refine recordResult (plan_meets.map fun plan obeys => ?_)
      have inside : plan.Obeys scheme.rule (later.levels closure.context) :=
        around ▸ obeys admitted
      exact inside

private theorem Keeps.inQuery {column : ColumnHandle} (column_valid : column.Valid start)
    {base : EntityType} {body : Query → SessionM (Result ProjectedQuery)}
    (kept : NestedKept scheme start closure outer base body .projected) :
    Keeps scheme start (closure :: outer) (column.inQuery base body) (closure :: outer)
      (fun recording predicate =>
        predicate.expr.ValidIn scheme.rule recording closure.context) := by
  -- the operand is read in the closure, before the nested query is made
  refine (columnToExpr column_valid).bind fun first operand grows operand_valid => ?_
  refine .read fun sound => ?_
  have parent_known := sound.known closure.context (List.mem_cons_self ..)
  rw [List.map_cons] at sound
  rw [sound.innermostContext?]
  have kept_first : NestedKept scheme first closure outer base body .projected :=
    fun recording nested enclosing further =>
      kept recording nested enclosing (grows.trans further)
  refine nested kept_first parent_known fun second outcome further meets => ?_
  split
  · next error => exact recordResult (Result.meets_error (meets.tame error rfl))
  · next projected =>
      obtain ⟨valid, admitted, around⟩ := meets.holds projected rfl
      refine (ProjectedQuery.keeps_compile valid).bind fun later plan _ ⟨same, plan_meets⟩ => ?_
      subst same
      have operand_valid := operand_valid.mono further
      refine recordResult (plan_meets.bind fun plan obeys => ?_)
      exact ⟨isTame_membership _ operand plan, fun expr tested =>
        obeys_membership operand_valid (around ▸ obeys admitted) tested⟩

namespace Term

variable {term : Term}

theorem kept_anyRow {base : EntityType} (negated : Bool)
    {body : Query → SessionM (Result Query)}
    (kept : NestedKept scheme start closure outer base body .query) :
    Keeps scheme start (closure :: outer) (term.anyRow base negated body) (closure :: outer)
      (fun recording term => term.ValidIn scheme.rule recording closure.context) := by
  cases term with
  | table handle =>
      exact (Keeps.anyRow handle negated kept).map fun _ _ _ valid => valid
  | column | columns | expr | aggregate | predicate | reference | literal | nothing =>
      exact .pure trivial

theorem kept_inQuery (valid : term.ValidIn scheme.rule start closure.context) {base : EntityType}
    {body : Query → SessionM (Result ProjectedQuery)}
    (kept : NestedKept scheme start closure outer base body .projected) :
    Keeps scheme start (closure :: outer) (term.inQuery base body) (closure :: outer)
      (fun recording term => term.ValidIn scheme.rule recording closure.context) := by
  cases term with
  | column handle => exact (Keeps.inQuery valid kept).map fun _ _ _ valid => valid
  | table | columns | expr | aggregate | predicate | reference | literal | nothing =>
      exact .pure trivial

end Term

end TrackedQuery
