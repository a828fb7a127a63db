import TrackedQuery.Proofs.Splitting.InStep

/-!
# What bodies do, in step

Errors, statements and sort keys are recorded in step, and predicates that are in step are combined
in step.  A sink that is opened behind the seam has another number on either side, but what is
recorded in it is the same (`InStep.recordInside`).  A clause inside the one with the seam has a
recorder of its own, to which the seam makes no difference (`InStep.recordClause`).
-/

namespace TrackedQuery

variable {seam : Seam} {site : Site} {depth : Nat}

namespace Seam

variable (seam : Seam) (depth : Nat)

private theorem setSlot_innermost (recorder : Recorder) (slot : Slot) (content : Option Expr) :
    (seam.innermost depth recorder).setSlot (seam.slotAt depth slot) content =
      seam.innermost depth (recorder.setSlot slot content) := by
  cases depth with
  | zero => exact seam.setSlot recorder slot content
  | succ depth => rfl

private theorem recordSortKey_innermost (recorder : Recorder) (key : SortKey) :
    (seam.innermost depth recorder).recordSortKey key =
      seam.innermost depth (recorder.recordSortKey key) := by
  cases depth with
  | zero => exact seam.recordSortKey recorder key
  | succ depth => rfl

private theorem recordPredicate_recording (recording : Recording) (statement : Expr) :
    (seam.recording depth recording).recordPredicate statement =
      ((recording.recordPredicate statement).1.map (seam.slotAt depth),
        seam.recording depth (recording.recordPredicate statement).2) := by
  obtain ⟨contexts, recorders⟩ := recording
  cases recorders with
  | nil => cases depth <;> rfl
  | cons innermost outer =>
      cases depth with
      | zero =>
          have recorded := seam.recordPredicate innermost statement
          show ((Recorder.recordPredicate _ _).1,
            Recording.mk _ ((Recorder.recordPredicate _ _).2 :: _)) = _
          rw [recorded]
          rfl
      | succ depth => exact congrArg (Prod.mk · _) (congrFun Option.map_id _).symm

end Seam

private theorem Recording.At.recordPredicate {shape : List OpenSink} {recording : Recording}
    (placed : recording.At site depth shape) (statement : Expr) :
    (recording.recordPredicate statement).2.At site depth shape := by
  have changed : (recording.recordPredicate statement).2 =
      recording.modifyActive fun recorder => (recorder.recordPredicate statement).2 := by
    obtain ⟨contexts, recorders⟩ := recording
    cases recorders <;> rfl
  rw [changed]
  exact placed.modifyActive (fun _ _ placed => placed.recordPredicate statement) fun _ => rfl

namespace Recording.At

variable {shape : List OpenSink} {recording : Recording}

private theorem openSink_recording (placed : recording.At site depth shape) (seam : Seam)
    (sink : Sink) :
    (seam.recording depth recording).openSink sink =
      seam.recording depth (recording.openSink sink) := by
  obtain ⟨contexts, recorders⟩ := recording
  obtain ⟨recorder, dropped, recorder_at⟩ := placed.recorder
  cases depth with
  | zero =>
      cases dropped
      exact congrArg (fun recorder => Recording.mk _ (recorder :: _))
        (seam.openSink recorder_at.begun sink)
  | succ depth => cases recorders <;> rfl

/-- A sink that is opened behind the seam can be closed again, and what was recorded in it is the
same on both sides. -/
theorem openSink (placed : recording.At site depth shape) (seam : Seam) (sink : Sink) :
    ∃ inner, (recording.openSink sink).At site depth inner ∧
      ∀ later : Recording, later.At site depth inner → later.closeSink.2.At site depth shape ∧
        (seam.recording depth later).closeSink =
          (later.closeSink.1, seam.recording depth later.closeSink.2) := by
  obtain ⟨recorder, dropped, recorder_at⟩ := placed.recorder
  cases depth with
  -- in the clause with the seam itself the sink is numbered later than the seam
  | zero =>
      refine ⟨⟨recorder.nextSink, sink.emptied⟩ :: shape, ?_, fun later later_at => ?_⟩
      · refine ⟨⟨recorder.openSink sink, ?_, recorder_at.openSink sink⟩,
          placed.grows.trans (.of_contexts_eq (contexts_modifyActive _ _))⟩
        obtain ⟨contexts, recorders⟩ := recording
        cases dropped
        rfl
      · obtain ⟨contexts, recorders⟩ := later
        obtain ⟨closing, dropped, closing_at⟩ := later_at.recorder
        cases dropped
        obtain ⟨closed, innermost, outer, sinks, -⟩ := closing_at.closeSink
        refine ⟨⟨⟨_, rfl, closed⟩, later_at.grows.trans (.of_contexts_eq rfl)⟩, ?_⟩
        obtain ⟨number, next⟩ := Nat.exists_eq_succ_of_ne_zero (Nat.ne_of_gt recorder_at.begun)
        rw [next] at sinks
        exact Prod.ext (seam.closeSink_fst sinks)
          (congrArg (fun recorder => Recording.mk _ (recorder :: _)) (seam.closeSink_snd closing))
  -- in a clause nested in it the seam changes nothing that is opened or closed
  | succ depth =>
      refine ⟨shape, placed.modifyActive (fun zero => nomatch zero) fun _ => rfl,
        fun later later_at => ?_⟩
      have closed :
          later.closeSink.2 = later.modifyActive fun recorder => recorder.closeSink.2 := by
        obtain ⟨contexts, recorders⟩ := later
        cases recorders <;> rfl
      constructor
      · rw [closed]
        exact later_at.modifyActive (fun zero => nomatch zero) fun _ => rfl
      · obtain ⟨contexts, recorders⟩ := later
        cases recorders <;> rfl

end Recording.At

private theorem recordInside_run (sink : Sink) (body : SessionM Unit) (session : Session) :
    recordInside sink body session =
      (fun ran : Unit × Session =>
        (ran.2.recording.closeSink.1,
          { ran.2 with recording := ran.2.recording.closeSink.2 }))
      (body { session with recording := session.recording.openSink sink }) := rfl

theorem recordClause_run {α : Type} (context : ContextId) (sink : Sink) (body : SessionM α)
    (session : Session) :
    recordClause context sink body session =
      (fun ran : α × Session =>
        (ran.2.recording.endClause.1.map fun recorded => (ran.1, recorded),
          { ran.2 with recording := ran.2.recording.endClause.2 }))
      (body { session with recording := session.recording.beginClause context sink }) := rfl

namespace InStep

/-! ## Errors -/

theorem reportError (error : Error) : Same seam site depth (TrackedQuery.reportError error) :=
  modifyActive (fun _ => by cases depth <;> rfl) fun _ _ placed => placed.report error

theorem checkOperand (subject : Subject) (expected found : Ty) :
    Same seam site depth (TrackedQuery.checkOperand subject expected found) := by
  unfold TrackedQuery.checkOperand
  split
  · exact .pure rfl
  · exact reportError _

/-- Reporting an error and answering something else instead. -/
theorem reportInstead {α : Type} {passage : α → α} (error : Error) {instead instead' : α}
    (passes : instead' = passage instead) :
    InStep seam site depth
      (TrackedQuery.reportError error >>= fun _ => Pure.pure instead)
      (TrackedQuery.reportError error >>= fun _ => Pure.pure instead') passage :=
  (reportError error).bind fun _ => .pure passes

/-! ## Predicates -/

theorem record (expr : Expr) :
    InStep seam site depth (Predicate.record expr) (Predicate.record expr)
      (Predicate.moved (seam.slotAt depth)) := by
  have recorded : InStep seam site depth (modifyGetThe Recording (·.recordPredicate expr))
      (modifyGetThe Recording (·.recordPredicate expr)) (Option.map (seam.slotAt depth)) :=
    modifyGet (fun recording => seam.recordPredicate_recording depth recording expr)
      fun _ _ placed => placed.recordPredicate expr
  exact recorded.map fun _ => rfl

private theorem setSlot (slot : Slot) (content : Option Expr) :
    InStep seam site depth (modifyThe Recording (·.setSlot slot content))
      (modifyThe Recording (·.setSlot (seam.slotAt depth slot) content)) id :=
  modifyActive (fun recorder => seam.setSlot_innermost depth recorder slot content)
    fun _ _ placed => placed.setSlot slot content

theorem withdraw (predicate : Predicate) :
    InStep seam site depth predicate.withdraw (predicate.moved (seam.slotAt depth)).withdraw
      id := by
  obtain ⟨slot, expr⟩ := predicate
  cases slot with
  | none => exact .pure rfl
  | some slot => exact setSlot slot none

theorem become (predicate : Predicate) (expr : Expr) :
    InStep seam site depth (predicate.become expr)
      ((predicate.moved (seam.slotAt depth)).become expr)
      (Predicate.moved (seam.slotAt depth)) := by
  obtain ⟨slot, old⟩ := predicate
  cases slot with
  | none => exact record expr
  | some slot => exact (setSlot slot (some expr)).bind fun _ => .pure rfl

theorem and (lhs rhs : Predicate) :
    InStep seam site depth (lhs.and rhs)
      ((lhs.moved (seam.slotAt depth)).and (rhs.moved (seam.slotAt depth)))
      (Predicate.moved (seam.slotAt depth)) :=
  (withdraw rhs).bind fun _ => become lhs (lhs.expr.and rhs.expr)

theorem or (lhs rhs : Predicate) :
    InStep seam site depth (lhs.or rhs)
      ((lhs.moved (seam.slotAt depth)).or (rhs.moved (seam.slotAt depth)))
      (Predicate.moved (seam.slotAt depth)) :=
  (withdraw rhs).bind fun _ => become lhs (lhs.expr.or rhs.expr)

theorem not (predicate : Predicate) :
    InStep seam site depth predicate.not (predicate.moved (seam.slotAt depth)).not
      (Predicate.moved (seam.slotAt depth)) :=
  become predicate (.neg predicate.expr)

theorem detach (predicate : Predicate) :
    InStep seam site depth predicate.detach (predicate.moved (seam.slotAt depth)).detach id :=
  (withdraw predicate).bind fun _ => .pure rfl

theorem compare (subject : Subject) (op : CompareOp) (lhs rhs : TypedExpr) :
    InStep seam site depth (TrackedQuery.compare subject op lhs rhs)
      (TrackedQuery.compare subject op lhs rhs) (Predicate.moved (seam.slotAt depth)) :=
  (checkOperand subject lhs.ty rhs.ty).bind fun _ => record _

theorem sortBy (direction : Direction) (expr : Expr) :
    Same seam site depth (TrackedQuery.sortBy direction expr) :=
  modifyActive (fun recorder => seam.recordSortKey_innermost depth recorder _)
    fun _ _ placed => placed.recordSortKey _

/-! ## Sinks and clauses -/

/-- A body under a further sink records the same on both sides. -/
theorem recordInside {body body' : SessionM Unit} (sink : Sink)
    (inside : InStep seam site depth body body' id) :
    InStep seam site depth (TrackedQuery.recordInside sink body)
      (TrackedQuery.recordInside sink body') id := by
  intro shape session placed
  obtain ⟨inner, opened, closes⟩ := placed.recording.openSink seam sink
  obtain ⟨same, ended⟩ := inside inner
    { session with recording := session.recording.openSink sink }
    ⟨opened, placed.plain, placed.stages⟩
  have begun : seam.session depth { session with recording := session.recording.openSink sink } =
      { seam.session depth session with
        recording := (seam.session depth session).recording.openSink sink } :=
    congrArg (fun recording => { seam.session depth session with recording := recording })
      (placed.recording.openSink_recording seam sink).symm
  rw [begun] at same
  unfold InStepFrom
  rw [recordInside_run, recordInside_run, same]
  generalize body { session with recording := session.recording.openSink sink } = ran at ended
  obtain ⟨closed, answer⟩ := closes _ ended.recording
  refine ⟨?_, closed, ended.plain, ended.stages⟩
  show ((seam.recording depth ran.2.recording).closeSink.1, { seam.session depth ran.2 with
    recording := (seam.recording depth ran.2.recording).closeSink.2 }) = _
  rw [answer]
  rfl

/-- A clause inside the one with the seam records the same on both sides. -/
theorem recordClause {α : Type} {body body' : SessionM α} (context : ContextId) (sink : Sink)
    (inside : InStep seam site (depth + 1) body body' id) :
    InStep seam site depth (TrackedQuery.recordClause context sink body)
      (TrackedQuery.recordClause context sink body') id := by
  intro shape session placed
  obtain ⟨same, ended⟩ := inside shape
    { session with recording := session.recording.beginClause context sink }
    ⟨placed.recording.beginClause context sink, placed.plain, placed.stages⟩
  have same : body' { seam.session depth session with
      recording := (seam.session depth session).recording.beginClause context sink } = _ := same
  unfold InStepFrom
  rw [recordClause_run, recordClause_run, same]
  generalize body { session with recording := session.recording.beginClause context sink } = ran
    at ended
  refine ⟨?_, ended.recording.endClause, ended.plain, ended.stages⟩
  show ((seam.recording (depth + 1) ran.2.recording).endClause.1.map _,
    { seam.session (depth + 1) ran.2 with
      recording := (seam.recording (depth + 1) ran.2.recording).endClause.2 }) = _
  rw [Seam.endClause]
  rfl

end InStep

end TrackedQuery
