import TrackedQuery.Proofs.Session.Keeps

/-!
# Clause bodies keep sessions sound

What a clause body does besides reading handles: it records statements and sort keys, combines
predicates, restricts aggregates, and reports errors.  Each of these keeps a session sound when the
operands are valid in the closure that is being recorded, and the predicate or the aggregate that
comes out is valid there again.
-/

namespace TrackedQuery

namespace Keeps

variable {scheme : Scheme} {start : Recording} {closure : Closure} {outer : List Closure}

/-! ## Errors -/

/-- Changing the innermost recorder. -/
theorem modifyActive {change : Recorder → Recorder}
    (same : ∀ recorder, (change recorder).context = recorder.context)
    (keeps : ∀ recorder : Recorder, recorder.Sound scheme.rule (start.levels closure.context) →
      (change recorder).Sound scheme.rule (start.levels closure.context)) :
    Keeps scheme start (closure :: outer) (modifyThe Recording (·.modifyActive change))
      (closure :: outer) (fun _ _ => True) :=
  .modify fun sound =>
    ⟨sound.modifyActive same keeps, .of_contexts_eq (start.contexts_modifyActive change), trivial⟩

theorem reportError {error : Error} (tame : error.IsTame scheme.rule) :
    Keeps scheme start (closure :: outer) (TrackedQuery.reportError error) (closure :: outer)
      (fun _ _ => True) :=
  modifyActive (fun _ => rfl) fun _ recorded => recorded.report tame

/-- Reporting an error and answering something else instead. -/
theorem reportInstead {α : Type} {error : Error} (tame : error.IsTame scheme.rule) {instead : α}
    {post : Recording → α → Prop}
    (holds : ∀ recording, start.Grows recording → post recording instead) :
    Keeps scheme start (closure :: outer)
      (TrackedQuery.reportError error >>= fun _ => Pure.pure instead) (closure :: outer) post :=
  (reportError tame).bind fun recording _ grows _ => .pure (holds recording grows)

theorem checkOperand (subject : Subject) (expected found : Ty) :
    Keeps scheme start (closure :: outer) (TrackedQuery.checkOperand subject expected found)
      (closure :: outer) (fun _ _ => True) := by
  unfold TrackedQuery.checkOperand
  split
  · exact .pure trivial
  · refine reportError fun _ ⟨table, entity, foreign⟩ => ?_
    cases foreign

/-! ## Predicates -/

theorem record {expr : Expr} (valid : expr.ValidIn scheme.rule start closure.context) :
    Keeps scheme start (closure :: outer) (Predicate.record expr) (closure :: outer)
      (fun recording predicate =>
        predicate.expr.ValidIn scheme.rule recording closure.context) := by
  have recorded : Keeps scheme start (closure :: outer)
      (modifyGetThe Recording (·.recordPredicate expr)) (closure :: outer)
      (fun recording _ => expr.ValidIn scheme.rule recording closure.context) := by
    refine .modifyGet fun sound => ?_
    obtain ⟨recorder, rest, hrecorders, hcontext, recorder_sound⟩ := sound.innermost
    -- a recorder stays the one of its context, whatever it records
    have context_kept : (recorder.recordPredicate expr).2.context = closure.context := by
      rw [← hcontext]
      unfold Recorder.recordPredicate
      split <;> rfl
    have replaced := sound.setInnermost context_kept (recorder_sound.recordPredicate valid)
    have grows : start.Grows (start.recordPredicate expr).2 := by
      refine .of_contexts_eq ?_
      unfold Recording.recordPredicate
      split <;> rfl
    refine ⟨?_, grows, valid.mono grows⟩
    unfold Recording.recordPredicate
    rw [hrecorders] at replaced ⊢
    exact replaced
  exact recorded.map fun _ _ _ valid => valid

private theorem setSlot (slot : Slot) {content : Option Expr}
    (valid : ∀ statement ∈ content, statement.ValidIn scheme.rule start closure.context) :
    Keeps scheme start (closure :: outer) (modifyThe Recording (·.setSlot slot content))
      (closure :: outer) (fun _ _ => True) :=
  modifyActive (fun _ => rfl) fun _ recorded => recorded.setSlot slot valid

theorem withdraw (predicate : Predicate) :
    Keeps scheme start (closure :: outer) predicate.withdraw (closure :: outer)
      (fun _ _ => True) := by
  unfold Predicate.withdraw
  split
  · exact setSlot _ (by simp)
  · exact .pure trivial

theorem become (predicate : Predicate) {expr : Expr}
    (valid : expr.ValidIn scheme.rule start closure.context) :
    Keeps scheme start (closure :: outer) (predicate.become expr) (closure :: outer)
      (fun recording predicate =>
        predicate.expr.ValidIn scheme.rule recording closure.context) := by
  unfold Predicate.become
  -- a predicate that has lost its slot is recorded anew
  split
  · refine (setSlot _ fun statement mem => ?_).bind fun recording _ grows _ =>
      .pure (valid.mono grows)
    cases mem
    exact valid
  · exact record valid

theorem and {lhs rhs : Predicate} (left : lhs.expr.ValidIn scheme.rule start closure.context)
    (right : rhs.expr.ValidIn scheme.rule start closure.context) :
    Keeps scheme start (closure :: outer) (lhs.and rhs) (closure :: outer)
      (fun recording predicate =>
        predicate.expr.ValidIn scheme.rule recording closure.context) :=
  (withdraw rhs).bind fun _ _ grows _ =>
    become lhs ((left.mono grows).and (right.mono grows))

theorem or {lhs rhs : Predicate} (left : lhs.expr.ValidIn scheme.rule start closure.context)
    (right : rhs.expr.ValidIn scheme.rule start closure.context) :
    Keeps scheme start (closure :: outer) (lhs.or rhs) (closure :: outer)
      (fun recording predicate =>
        predicate.expr.ValidIn scheme.rule recording closure.context) :=
  (withdraw rhs).bind fun _ _ grows _ =>
    become lhs ((left.mono grows).or (right.mono grows))

theorem not {predicate : Predicate}
    (valid : predicate.expr.ValidIn scheme.rule start closure.context) :
    Keeps scheme start (closure :: outer) predicate.not (closure :: outer)
      (fun recording predicate =>
        predicate.expr.ValidIn scheme.rule recording closure.context) :=
  become predicate valid

theorem detach {predicate : Predicate}
    (valid : predicate.expr.ValidIn scheme.rule start closure.context) :
    Keeps scheme start (closure :: outer) predicate.detach (closure :: outer)
      (fun recording operand => operand.expr.ValidIn scheme.rule recording closure.context) :=
  (withdraw predicate).bind fun _ _ grows _ => .pure (valid.mono grows)

theorem compare (subject : Subject) (op : CompareOp) {lhs rhs : TypedExpr}
    (left : lhs.expr.ValidIn scheme.rule start closure.context)
    (right : rhs.expr.ValidIn scheme.rule start closure.context) :
    Keeps scheme start (closure :: outer) (TrackedQuery.compare subject op lhs rhs)
      (closure :: outer) (fun recording predicate =>
        predicate.expr.ValidIn scheme.rule recording closure.context) :=
  (checkOperand subject lhs.ty rhs.ty).bind fun _ _ grows _ =>
    record ⟨left.mono grows, right.mono grows⟩

theorem sortBy (direction : Direction) {expr : Expr}
    (valid : expr.ValidIn scheme.rule start closure.context) :
    Keeps scheme start (closure :: outer) (TrackedQuery.sortBy direction expr) (closure :: outer)
      (fun _ _ => True) := by
  refine modifyActive (fun recorder => ?_) fun _ recorded => recorded.recordSortKey valid
  unfold Recorder.recordSortKey
  split <;> rfl

/-! ## Aggregates -/

/-- Running a body under a further sink. -/
theorem recordInside {sink : Sink} {body : SessionM Unit}
    (empty : sink.Obeys scheme.rule (start.levels closure.context))
    (kept : ∀ recording, start.Grows recording →
      Keeps scheme recording (closure :: outer) body (closure :: outer) (fun _ _ => True)) :
    Keeps scheme start (closure :: outer) (TrackedQuery.recordInside sink body) (closure :: outer)
      (fun recording recorded =>
        recorded.Obeys scheme.rule (recording.levels closure.context)) := by
  have opened : Keeps scheme start (closure :: outer) (modifyThe Recording (·.openSink sink))
      (closure :: outer) (fun _ _ => True) :=
    modifyActive (fun _ => rfl) fun _ recorded => recorded.openSink empty
  refine opened.bind fun first _ grows _ => ?_
  refine (kept first grows).bind fun recording _ _ _ => ?_
  refine .modifyGet fun sound => ?_
  obtain ⟨recorder, rest, hrecorders, hcontext, recorder_sound⟩ := sound.innermost
  have context_kept : recorder.closeSink.2.context = closure.context := by
    rw [← hcontext]
    unfold Recorder.closeSink
    split <;> rfl
  have replaced := sound.setInnermost context_kept recorder_sound.closeSink.2
  unfold Recording.closeSink
  rw [hrecorders] at replaced ⊢
  exact ⟨replaced, .of_contexts_eq rfl, recorder_sound.closeSink.1⟩

/-- Restricting an aggregate. -/
theorem filter {aggregate : Aggregate} {body : SessionM Unit}
    (valid : aggregate.ValidIn scheme.rule start closure.context)
    (kept : ∀ recording, start.Grows recording →
      Keeps scheme recording (closure :: outer) body (closure :: outer) (fun _ _ => True)) :
    Keeps scheme start (closure :: outer) (aggregate.filter body) (closure :: outer)
      (fun recording restricted =>
        restricted.ValidIn scheme.rule recording closure.context) := by
  have empty : (Sink.predicates []).Obeys scheme.rule (start.levels closure.context) :=
    fun _ mem => absurd mem List.not_mem_nil
  refine (recordInside empty kept).map fun recording recorded grows obeys argument mem => ?_
  cases mem
  -- the argument becomes a case distinction: where the statements hold, what was counted
  refine ⟨⟨⟨Expr.obeys_all obeys.statements, ?_⟩, trivial⟩, Expr.obeys_value .null⟩
  cases counted : aggregate.argument with
  | none => exact Expr.obeys_value _
  | some operand => exact (valid operand counted).mono grows

end Keeps

end TrackedQuery
