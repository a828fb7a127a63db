import TrackedQuery.Proofs.Recording.Move
import TrackedQuery.Proofs.Result
import TrackedQuery.Query.Handle

/-!
# Look-ups that fail

A handle is looked up when it is made, and read when it is used.  Both may fail, and both do so in
one way: the failure is reported to the innermost clause, and what comes out stands for nothing
(`Bench.Attempt`).  A handle that stands for nothing already passes this on, and nobody is told
again.

A recorder never gets rid of an error that was reported to it.  This is what `Recording.Continues`
says of everything that happens between the beginning and the end of a clause.
-/

namespace TrackedQuery

/-! ## Errors stay -/

/-- The first error that was reported stays the first one. -/
def Recorder.Continues (before after : Recorder) : Prop :=
  ∀ error, before.error = some error → after.error = some error

theorem Recorder.continues_of_error_eq {before after : Recorder}
    (same : after.error = before.error) : before.Continues after :=
  fun _ reported => same.trans reported

theorem Recorder.continues_report (recorder : Recorder) (error : Error) :
    recorder.Continues (recorder.report error) := by
  intro first reported
  rw [report, reported]
  rfl

private theorem Recorder.continues_recordPredicate (recorder : Recorder) (statement : Expr) :
    recorder.Continues (recorder.recordPredicate statement).2 := by
  refine continues_of_error_eq ?_
  unfold recordPredicate
  split <;> rfl

theorem Recorder.continues_recordSortKey (recorder : Recorder) (key : SortKey) :
    recorder.Continues (recorder.recordSortKey key) := by
  unfold recordSortKey
  split
  · exact continues_of_error_eq rfl
  · exact continues_report recorder _

private theorem Recorder.continues_closeSink (recorder : Recorder) :
    recorder.Continues recorder.closeSink.2 := by
  refine continues_of_error_eq ?_
  unfold closeSink
  split <;> rfl

namespace Recording

/-- The same clauses are being built, and each has its first error still. -/
structure Continues (before after : Recording) : Prop where
  length : after.recorders.length = before.recorders.length
  kept : ∀ (depth : Nat) (recorder : Recorder), before.recorders[depth]? = some recorder →
    ∃ later, after.recorders[depth]? = some later ∧ recorder.Continues later

/-- An error was reported to the innermost clause, if there is one. -/
def Accused (recording : Recording) : Prop :=
  ∀ recorder, recording.recorders[0]? = some recorder → recorder.error.isSome = true

variable {first second third : Recording}

theorem Continues.of_recorders_eq (same : second.recorders = first.recorders) :
    first.Continues second where
  length := by rw [same]
  kept _ recorder found := ⟨recorder, same ▸ found, Recorder.continues_of_error_eq rfl⟩

theorem Continues.refl (recording : Recording) : recording.Continues recording :=
  .of_recorders_eq rfl

theorem Continues.trans (now : first.Continues second) (later : second.Continues third) :
    first.Continues third where
  length := later.length.trans now.length
  kept depth recorder found := by
    obtain ⟨next, found, kept⟩ := now.kept depth recorder found
    obtain ⟨last, found, again⟩ := later.kept depth next found
    exact ⟨last, found, fun error reported => again error (kept error reported)⟩

/-- What happens to the innermost recorder alone. -/
theorem continues_head {contexts : List Context} {recorder after : Recorder}
    (same : recorder.Continues after) (outer : List Recorder) :
    Continues ⟨contexts, recorder :: outer⟩ ⟨contexts, after :: outer⟩ where
  length := rfl
  kept depth found here := by
    cases depth with
    | zero =>
        cases here
        exact ⟨after, rfl, same⟩
    | succ depth => exact ⟨found, here, Recorder.continues_of_error_eq rfl⟩

theorem continues_modifyActive (recording : Recording) {change : Recorder → Recorder}
    (kept : ∀ recorder : Recorder, recorder.Continues (change recorder)) :
    recording.Continues (recording.modifyActive change) := by
  obtain ⟨contexts, _ | ⟨recorder, outer⟩⟩ := recording
  · exact .refl _
  · exact continues_head (kept recorder) outer

theorem continues_report (recording : Recording) (error : Error) :
    recording.Continues (recording.report error) :=
  recording.continues_modifyActive (Recorder.continues_report · error)

theorem accused_report (recording : Recording) (error : Error) :
    (recording.report error).Accused := by
  obtain ⟨contexts, _ | ⟨recorder, outer⟩⟩ := recording
  · rintro _ ⟨⟩
  · rintro _ ⟨⟩
    show (recorder.error <|> some error).isSome = true
    cases recorder.error <;> rfl

theorem continues_recordSortKey (recording : Recording) (key : SortKey) :
    recording.Continues (recording.recordSortKey key) :=
  recording.continues_modifyActive (Recorder.continues_recordSortKey · key)

private theorem continues_recordPredicate (recording : Recording) (statement : Expr) :
    recording.Continues (recording.recordPredicate statement).2 := by
  obtain ⟨contexts, _ | ⟨recorder, outer⟩⟩ := recording
  · exact .refl _
  · exact continues_head (recorder.continues_recordPredicate statement) outer

private theorem continues_write (recording : Recording) (slot : Option Slot)
    (content : Option Expr) :
    recording.Continues (recording.write slot content) := by
  cases slot with
  | none => exact .refl _
  | some slot =>
      exact recording.continues_modifyActive fun _ => Recorder.continues_of_error_eq rfl

private theorem continues_closeSink (recording : Recording) :
    recording.Continues recording.closeSink.2 := by
  obtain ⟨contexts, _ | ⟨recorder, outer⟩⟩ := recording
  · exact .refl _
  · exact continues_head recorder.continues_closeSink outer

end Recording

/-- Whether a move begins or ends a clause. -/
def Move.isClause : Move → Bool
  | .beginClause _ _ | .endClause => true
  | .openSink | .closeSink | .record _ | .combine _ _ _ | .not _ | .detach _ | .report _ => false

namespace Bench

variable (bench : Bench)

private theorem continues_withdraw (predicate : Predicate) :
    bench.recording.Continues (bench.withdraw predicate).recording :=
  bench.recording.continues_write _ _

private theorem continues_become (predicate : Predicate) (expr : Expr) :
    bench.recording.Continues (bench.become predicate expr).recording := by
  obtain ⟨_ | slot, old⟩ := predicate
  · exact bench.recording.continues_recordPredicate expr
  · exact bench.recording.continues_write (some slot) _

/-- Within a clause, no error is forgotten. -/
theorem continues_after {move : Move} (inside : move.isClause = false) :
    bench.recording.Continues (bench.after move).recording := by
  cases move with
  | beginClause | endClause => cases inside
  | openSink =>
      exact bench.recording.continues_modifyActive fun _ => Recorder.continues_of_error_eq rfl
  | closeSink => exact bench.recording.continues_closeSink
  | record expr => exact bench.recording.continues_recordPredicate expr
  -- an operand that was never made leaves the recording as it is
  | combine connective lhs rhs =>
      cases left : bench.made[lhs]? with
      | none =>
          rw [after_combine_of_left_missing connective left]
          exact .refl _
      | some first =>
          cases right : bench.made[rhs]? with
          | none =>
              rw [after_combine_of_right_missing connective right]
              exact .refl _
          | some second =>
              rw [after_combine connective left right]
              exact (bench.continues_withdraw second).trans
                ((bench.withdraw second).continues_become first _)
  | not operand =>
      cases found : bench.made[operand]? with
      | none =>
          rw [after_not_of_missing found]
          exact .refl _
      | some predicate =>
          rw [after_not found]
          exact bench.continues_become predicate _
  | detach operand =>
      cases found : bench.made[operand]? with
      | none =>
          rw [after_detach_of_missing found]
          exact .refl _
      | some predicate =>
          rw [after_detach found]
          exact bench.continues_withdraw predicate
  | report error => exact bench.recording.continues_report error

end Bench

/-! ## Attempts -/

/-- Something was looked up, starting from something known or from nothing, and came out bound or
not.  If it did not come out bound although it started from something known, the innermost clause
has an error. -/
structure Bench.Attempt (before after : Bench) (known bound : Bool) : Prop where
  continues : before.recording.Continues after.recording
  accused : known = true → bound = false → after.recording.Accused

namespace Bench.Attempt

/-- Nothing was known, and nothing happens. -/
theorem skipped (bench : Bench) : Attempt bench bench false false :=
  ⟨.refl _, nofun⟩

theorem succeeded {before after : Bench}
    (same : after.recording.recorders = before.recording.recorders) :
    Attempt before after true true :=
  ⟨.of_recorders_eq same, nofun⟩

theorem failed {before : Bench} {recording : Recording}
    (same : recording.recorders = before.recording.recorders) (error : Error) :
    Attempt before { before with recording := recording.report error } true false :=
  ⟨(Recording.Continues.of_recorders_eq same).trans (recording.continues_report error),
    fun _ _ => recording.accused_report error⟩

end Bench.Attempt

/-- What follows an action continues with its answer on the bench after it. -/
theorem Bench.run_bind {α β : Type} {bench after : Bench} {action : BenchM α} {answer : α}
    {next : α → BenchM β} (ran : action bench = (answer, after)) :
    (action >>= next) bench = next answer after := by
  show next (action bench).1 (action bench).2 = _
  rw [ran]

namespace TableHandle

variable (table : TableHandle) (name : String) (bench : Bench)

/-- A column that is found stands for something. -/
theorem source_of_resolveColumn {context : Context} {id : ContextId} {binding : Binding}
    {scalar : Scalar} {column : ColumnHandle}
    (resolved : resolveColumn context id binding name scalar = .ok column) :
    column.source.isSome = true := by
  obtain ⟨entity, -, resolved⟩ := Result.bind_eq_ok.mp resolved
  obtain ⟨⟨index, found⟩, -, resolved⟩ := Result.bind_eq_ok.mp resolved
  simp only at resolved
  split at resolved
  · cases resolved
    rfl
  · cases resolved

/-- Looking up a column. -/
theorem attempt_column (scalar : Scalar) :
    bench.Attempt ((table.column name scalar : BenchM ColumnHandle) bench).2
      table.binding.isSome
      ((table.column name scalar : BenchM ColumnHandle) bench).1.source.isSome := by
  obtain ⟨context, _ | binding⟩ := table
  · exact .skipped bench
  · cases resolved : resolveColumn (bench.recording.contextAt context) context binding name
      scalar with
    | ok column =>
        have ran : (TableHandle.column ⟨context, some binding⟩ name scalar : BenchM ColumnHandle)
            bench = (column, bench) := by
          refine (Bench.run_bind rfl).trans ?_
          simp only [resolved]
          rfl
        rw [ran, source_of_resolveColumn name resolved]
        exact .succeeded rfl
    | error error =>
        have ran : (TableHandle.column ⟨context, some binding⟩ name scalar : BenchM ColumnHandle)
            bench = (⟨name, none⟩, { bench with recording := bench.recording.report error }) := by
          refine (Bench.run_bind rfl).trans ?_
          simp only [resolved]
          rfl
        rw [ran]
        exact .failed rfl error

/-- Following a navigation. -/
theorem attempt_navigate (expected : String) :
    bench.Attempt ((table.navigate name expected : BenchM TableHandle) bench).2
      table.binding.isSome
      ((table.navigate name expected : BenchM TableHandle) bench).1.binding.isSome := by
  obtain ⟨context, _ | binding⟩ := table
  · exact .skipped bench
  · cases followed : (bench.recording.contextAt context).navigate binding name with
    | error error =>
        have ran : (TableHandle.navigate ⟨context, some binding⟩ name expected :
            BenchM TableHandle) bench =
              (⟨context, none⟩, { bench with recording := bench.recording.report error }) := by
          refine (Bench.run_bind rfl).trans ?_
          simp only [followed]
          rfl
        rw [ran]
        exact .failed rfl error
    | ok reached =>
        obtain ⟨target, joined⟩ := reached
        -- the join is added, whether or not the entity is the expected one
        by_cases same : target.entity = expected
        · have ran : (TableHandle.navigate ⟨context, some binding⟩ name expected :
              BenchM TableHandle) bench =
                (⟨context, some target⟩,
                  { bench with recording := bench.recording.setContext context joined }) := by
            refine (Bench.run_bind rfl).trans ?_
            simp only [followed, same, if_true]
            rfl
          rw [ran]
          exact .succeeded rfl
        · have ran : (TableHandle.navigate ⟨context, some binding⟩ name expected :
              BenchM TableHandle) bench =
                (⟨context, none⟩,
                  { bench with
                    recording := (bench.recording.setContext context joined).report
                      (Cause.invalidStatement
                        (.navigationTarget binding.entity name target.entity expected)) }) := by
            refine (Bench.run_bind rfl).trans ?_
            simp only [followed, same, if_false]
            rfl
          rw [ran]
          refine .failed ?_ _
          rfl

end TableHandle

/-! ## Reading -/

/-- Whether an expression is a column. -/
def Expr.isColumn : Expr → Bool
  | .column _ => true
  | _ => false

/-- A reference tells what was read. -/
theorem Recording.bound_of_resolveColumn {recording : Recording} {context : ContextId}
    {table : Alias} {index : Nat} {ref : ColumnRef}
    (resolved : recording.resolveColumn context table index = .ok ref) :
    ref.bound = some ⟨context, table, index⟩ := by
  unfold resolveColumn at resolved
  split at resolved
  · cases resolved
    rfl
  · split at resolved
    · cases resolved
      rfl
    · cases resolved

namespace ColumnHandle

variable (column : ColumnHandle) (bench : Bench)

/-- A column that is read is a reference to what its handle stands for.  If it cannot be read, it is
`NULL`. -/
theorem toExpr_attempt :
    bench.Attempt ((column.toExpr : BenchM TypedExpr) bench).2 column.source.isSome
        ((column.toExpr : BenchM TypedExpr) bench).1.expr.isColumn ∧
      (((column.toExpr : BenchM TypedExpr) bench).1.expr = .value .null ∨
        ∃ ref source, ((column.toExpr : BenchM TypedExpr) bench).1.expr = .column ref ∧
          column.source = some source ∧
          ref.bound = some ⟨source.context, source.table, source.index⟩) := by
  obtain ⟨name, _ | source⟩ := column
  · exact ⟨.skipped bench, .inl rfl⟩
  · cases resolved : bench.recording.resolveColumn source.context source.table source.index with
    | ok ref =>
        have ran : (ColumnHandle.toExpr ⟨name, some source⟩ : BenchM TypedExpr) bench =
            (⟨.column ref, source.ty⟩, bench) := by
          refine (Bench.run_bind rfl).trans ?_
          simp only [resolved]
          rfl
        rw [ran]
        exact ⟨.succeeded rfl,
          .inr ⟨ref, source, rfl, rfl, Recording.bound_of_resolveColumn resolved⟩⟩
    | error error =>
        have ran : (ColumnHandle.toExpr ⟨name, some source⟩ : BenchM TypedExpr) bench =
            (.ofValue .null, { bench with recording := bench.recording.report error }) := by
          refine (Bench.run_bind rfl).trans ?_
          simp only [resolved]
          rfl
        rw [ran]
        exact ⟨.failed rfl error, .inl rfl⟩

end ColumnHandle

end TrackedQuery
