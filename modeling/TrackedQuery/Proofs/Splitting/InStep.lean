import TrackedQuery.Proofs.Query.Rooted
import TrackedQuery.Proofs.Splitting.Seam

/-!
# Computations in step

`InStep` says that two computations do the same on the two sides of a seam: from a session, as seen
from behind the seam and as seen from before it, they answer the same up to a passage, and the
sessions that they leave are again the same session as seen from the two sides.

The clause with the seam is being recorded when the computations begin, and it still is when they
end: its recorder has the same open sinks, the error that was noted, and around it the same
recorders (`Recording.At`).  With the seam that has nothing before it this is all that is said, and
so `InStep` is also what a single run of a body keeps.
-/

namespace TrackedQuery

/-! ## The clause with the seam -/

/-- The clause with the seam, as it is when the part behind the seam begins. -/
structure Site where
  /-- The queries under construction. -/
  start : Recording
  /-- The recorders around the one of the clause. -/
  outer : List Recorder
  /-- The query whose clause it is. -/
  context : ContextId
  /-- An error that was reported before. -/
  noted : Option Error
  /-- The queries that are kept. -/
  stages : Names Stage

/-- The clause that begins in a session. -/
def Site.begun (session : Session) (context : ContextId) : Site :=
  ⟨session.recording, session.recording.recorders, context, none, session.stages⟩

/-- An open sink without what was recorded. -/
def OpenSink.emptied (entry : OpenSink) : OpenSink := ⟨entry.number, entry.sink.emptied⟩

section At

variable {site : Site} {shape : List OpenSink}

/-- The recorder of the clause, with open sinks of the given numbers and kinds. -/
structure Recorder.At (site : Site) (shape : List OpenSink) (recorder : Recorder) : Prop where
  context : recorder.context = site.context
  shape : recorder.sinks.map OpenSink.emptied = shape
  begun : 0 < recorder.nextSink
  noted : ∀ error ∈ site.noted, recorder.error = some error

/-- The clause is being recorded, the given number of clauses further out. -/
structure Recording.At (site : Site) (depth : Nat) (shape : List OpenSink) (recording : Recording) :
    Prop where
  recorder : ∃ recorder, recording.recorders.drop depth = recorder :: site.outer ∧
    recorder.At site shape
  grows : site.start.Grows recording

/-- The clause is being recorded, the plain names are used for plain values, and no query is kept
that was not kept before. -/
structure Session.At (seam : Seam) (site : Site) (depth : Nat) (shape : List OpenSink)
    (session : Session) : Prop where
  recording : session.recording.At site depth shape
  plain : ∀ name ∈ seam.naming.plain, ∀ term, session.terms.get? name = some term →
    term.slot? = none
  stages : ∀ entry ∈ session.stages, entry ∈ site.stages

namespace Recorder.At

variable {recorder : Recorder}

theorem report (placed : recorder.At site shape) (error : Error) :
    (recorder.report error).At site shape where
  context := placed.context
  shape := placed.shape
  begun := placed.begun
  noted noted mem := by
    show (recorder.error <|> some error) = some noted
    rw [placed.noted noted mem]
    rfl

theorem recordPredicate (placed : recorder.At site shape) (statement : Expr) :
    (recorder.recordPredicate statement).2.At site shape := by
  obtain ⟨context, sinks, next, error⟩ := recorder
  cases sinks with
  | nil => exact placed
  | cons innermost outer =>
      obtain ⟨number, sink⟩ := innermost
      cases sink with
      | predicates slots => exact ⟨placed.context, placed.shape, placed.begun, placed.noted⟩
      | order | values => exact placed

theorem recordSortKey (placed : recorder.At site shape) (key : SortKey) :
    (recorder.recordSortKey key).At site shape := by
  obtain ⟨context, sinks, next, error⟩ := recorder
  cases sinks with
  | nil => exact placed.report _
  | cons innermost outer =>
      obtain ⟨number, sink⟩ := innermost
      cases sink with
      | order keys => exact ⟨placed.context, placed.shape, placed.begun, placed.noted⟩
      | predicates | values => exact placed.report _

theorem setSlot (placed : recorder.At site shape) (slot : Slot) (content : Option Expr) :
    (recorder.setSlot slot content).At site shape where
  context := placed.context
  shape := by
    rw [← placed.shape]
    simp only [Recorder.setSlot, List.map_map]
    refine List.map_congr_left fun entry _ => ?_
    simp only [Function.comp_apply]
    split
    · exact congrArg (OpenSink.mk entry.number) (Sink.emptied_setSlot ..)
    · rfl
  begun := placed.begun
  noted := placed.noted

theorem openSink (placed : recorder.At site shape) (sink : Sink) :
    (recorder.openSink sink).At site (⟨recorder.nextSink, sink.emptied⟩ :: shape) where
  context := placed.context
  shape := congrArg _ placed.shape
  begun := Nat.succ_pos _
  noted := placed.noted

/-- The sink that was opened last is closed. -/
theorem closeSink {entry : OpenSink} (placed : recorder.At site (entry :: shape)) :
    recorder.closeSink.2.At site shape ∧
      ∃ sink outer, recorder.sinks = ⟨entry.number, sink⟩ :: outer ∧ sink.emptied = entry.sink := by
  obtain ⟨context, sinks, next, error⟩ := recorder
  obtain ⟨innermost, outer, rfl, same, rest⟩ := List.map_eq_cons_iff.mp placed.shape
  subst same
  exact ⟨⟨placed.context, rest, placed.begun, placed.noted⟩, innermost.sink, outer, rfl, rfl⟩

end Recorder.At

namespace Recording.At

variable {recording after : Recording} {depth : Nat}

/-- The clause is still being recorded when the contexts grow. -/
theorem of_recorders_eq (placed : recording.At site depth shape)
    (same : after.recorders = recording.recorders) (grows : recording.Grows after) :
    after.At site depth shape :=
  ⟨same ▸ placed.recorder, placed.grows.trans grows⟩

theorem modifyActive {shape' : List OpenSink} {change : Recorder → Recorder}
    (placed : recording.At site depth shape)
    (kept : depth = 0 → ∀ recorder : Recorder, recorder.At site shape →
      (change recorder).At site shape')
    (same : depth ≠ 0 → shape' = shape) : (recording.modifyActive change).At site depth shape' := by
  refine ⟨?_, placed.grows.trans (.of_contexts_eq (recording.contexts_modifyActive change))⟩
  obtain ⟨contexts, recorders⟩ := recording
  obtain ⟨recorder, dropped, recorder_at⟩ := placed.recorder
  cases depth with
  | zero =>
      cases dropped
      exact ⟨change recorder, rfl, kept rfl recorder recorder_at⟩
  | succ depth =>
      rw [same (Nat.succ_ne_zero depth)]
      cases recorders with
      | nil => cases dropped
      | cons innermost outer => exact ⟨recorder, dropped, recorder_at⟩

theorem beginClause (placed : recording.At site depth shape) (context : ContextId) (sink : Sink) :
    (recording.beginClause context sink).At site (depth + 1) shape :=
  ⟨placed.recorder, placed.grows.trans (.of_contexts_eq rfl)⟩

theorem endClause (placed : recording.At site (depth + 1) shape) :
    recording.endClause.2.At site depth shape := by
  refine ⟨?_, placed.grows.trans (.of_contexts_eq recording.contexts_endClause)⟩
  obtain ⟨contexts, recorders⟩ := recording
  cases recorders with
  | nil =>
      obtain ⟨recorder, dropped, -⟩ := placed.recorder
      cases dropped
  | cons innermost outer => exact placed.recorder

end Recording.At

section Begun

variable {sink kind : Sink}

theorem Recording.At.begun (session : Session) (context : ContextId) (alike : sink.emptied = kind) :
    (session.recording.beginClause context sink).At (.begun session context) 0 [⟨0, kind⟩] where
  recorder := ⟨.start context sink, rfl, rfl, congrArg (fun kind => [OpenSink.mk 0 kind]) alike,
    Nat.zero_lt_one, by simp [Site.begun]⟩
  grows := .of_contexts_eq rfl

/-- A clause that begins, with nothing before it. -/
theorem Session.At.begun (session : Session) (context : ContextId) (alike : sink.emptied = kind) :
    Session.At .still (.begun session context) 0 [⟨0, kind⟩]
      { session with recording := session.recording.beginClause context sink } :=
  ⟨.begun session context alike, by simp [Seam.still], fun _ mem => mem⟩

end Begun

end At

/-! ## Two runs -/

namespace Seam

variable (seam : Seam) (depth : Nat) (recording : Recording)

/-- The innermost recorder, as seen from before the seam, which lies within the given number of
clauses. -/
def innermost : Nat → Recorder → Recorder
  | 0 => seam.recorder
  | _ + 1 => id

/-! What is read of a recording is the same on both sides. -/

theorem contextAt_recording (id : ContextId) :
    (seam.recording depth recording).contextAt id = recording.contextAt id := rfl

theorem innermostContext?_recording :
    (seam.recording depth recording).innermostContext? = recording.innermostContext? := by
  obtain ⟨contexts, recorders⟩ := recording
  cases recorders <;> cases depth <;> rfl

theorem resolveColumn_recording (context : ContextId) (table : Alias) (column : Nat) :
    (seam.recording depth recording).resolveColumn context table column =
      recording.resolveColumn context table column := by
  obtain ⟨contexts, recorders⟩ := recording
  cases recorders <;> cases depth <;> rfl

theorem itemsFrom_recording (context : ContextId) (table : Alias) (index : Nat)
    (columns : List Column) :
    TableHandle.itemsFrom (seam.recording depth recording) context table index columns =
      TableHandle.itemsFrom recording context table index columns := by
  induction columns generalizing index with
  | nil => rfl
  | cons column rest ih =>
      unfold TableHandle.itemsFrom
      rw [resolveColumn_recording, ih]

/-! What is changed of a recording is changed alike. -/

variable {seam depth recording}

theorem modifyActive {change change' : Recorder → Recorder}
    (same : ∀ recorder, change' (seam.innermost depth recorder) =
      seam.innermost depth (change recorder)) :
    (seam.recording depth recording).modifyActive change' =
      seam.recording depth (recording.modifyActive change) := by
  obtain ⟨contexts, recorders⟩ := recording
  cases recorders with
  | nil => cases depth <;> rfl
  | cons innermost outer =>
      have replaced := same innermost
      cases depth with
      | zero | succ => exact congrArg (fun recorder => Recording.mk _ (recorder :: _)) replaced

/-- A clause inside the one with the seam ends alike. -/
theorem endClause :
    (seam.recording (depth + 1) recording).endClause =
      (recording.endClause.1, seam.recording depth recording.endClause.2) := by
  obtain ⟨contexts, recorders⟩ := recording
  cases recorders with
  | nil => cases depth <;> rfl
  | cons innermost outer => rfl

end Seam

/-- From a session, two computations do the same on the two sides of a seam, up to a passage of
their answers. -/
abbrev InStepFrom (seam : Seam) (site : Site) (depth : Nat) (shape : List OpenSink)
    (session : Session) {α : Type} (run run' : SessionM α) (passage : α → α) : Prop :=
  run' (seam.session depth session) =
      (passage (run session).1, seam.session depth (run session).2) ∧
    (run session).2.At seam site depth shape

/-- Two computations do the same on the two sides of a seam, up to a passage of their answers. -/
def InStep (seam : Seam) (site : Site) (depth : Nat) {α : Type} (run run' : SessionM α)
    (passage : α → α) : Prop :=
  ∀ shape (session : Session), session.At seam site depth shape →
    InStepFrom seam site depth shape session run run' passage

/-- A computation does the same on both sides of a seam. -/
abbrev Same (seam : Seam) (site : Site) (depth : Nat) {α : Type} (run : SessionM α) : Prop :=
  InStep seam site depth run run id

namespace InStep

variable {seam : Seam} {site : Site} {depth : Nat} {α β : Type} {run run' : SessionM α}
  {passage : α → α} {passage' : β → β}

theorem pure {value value' : α} (passes : value' = passage value) :
    InStep seam site depth (Pure.pure value) (Pure.pure value') passage := by
  intro shape session placed
  subst passes
  exact ⟨rfl, placed⟩

/-- Going on with an answer, of which something may be known. -/
theorem bindOf (post : α → Prop) {next next' : α → SessionM β}
    (first : InStep seam site depth run run' passage) (holds : ∀ session, post (run session).1)
    (rest : ∀ value, post value →
      InStep seam site depth (next value) (next' (passage value)) passage') :
    InStep seam site depth (run >>= next) (run' >>= next') passage' := by
  intro shape session placed
  obtain ⟨same, middle⟩ := first shape session placed
  obtain ⟨same', ended⟩ := rest _ (holds session) shape _ middle
  refine ⟨?_, ended⟩
  show next' (run' (seam.session depth session)).1 (run' (seam.session depth session)).2 = _
  rw [same]
  exact same'

theorem bind {next next' : α → SessionM β} (first : InStep seam site depth run run' passage)
    (rest : ∀ value, InStep seam site depth (next value) (next' (passage value)) passage') :
    InStep seam site depth (run >>= next) (run' >>= next') passage' :=
  bindOf (fun _ => True) first (fun _ => trivial) fun value _ => rest value

/-- Answering a function of what computations answer. -/
theorem map {change change' : α → β} (first : InStep seam site depth run run' passage)
    (passes : ∀ value, change' (passage value) = passage' (change value)) :
    InStep seam site depth (run >>= fun value => Pure.pure (change value))
      (run' >>= fun value => Pure.pure (change' value)) passage' :=
  first.bind fun value => .pure (passes value)

/-- Reading the recording. -/
theorem read {next next' : Recording → SessionM β}
    (rest : ∀ recording, InStep seam site depth (next recording)
      (next' (seam.recording depth recording)) passage') :
    InStep seam site depth (getThe Recording >>= next) (getThe Recording >>= next') passage' :=
  fun shape session placed => rest session.recording shape session placed

/-- Reading a context. -/
theorem readContext {id : ContextId} {next next' : Context → SessionM β}
    (rest : ∀ context, InStep seam site depth (next context) (next' context) passage') :
    InStep seam site depth (contextOf id >>= next) (contextOf id >>= next') passage' :=
  fun shape session placed => rest (session.recording.contextAt id) shape session placed

/-- Reading the session. -/
theorem readSession {next next' : Session → SessionM β}
    (rest : ∀ session, InStep seam site depth (next session) (next' (seam.session depth session))
      passage') :
    InStep seam site depth (getThe Session >>= next) (getThe Session >>= next') passage' :=
  fun shape session placed => rest session shape session placed

/-- Changing the session. -/
theorem modifySession {change change' : Session → α × Session}
    (passes : ∀ shape (session : Session), session.At seam site depth shape →
      change' (seam.session depth session) =
          (passage (change session).1, seam.session depth (change session).2) ∧
        (change session).2.At seam site depth shape) :
    InStep seam site depth (modifyGetThe Session change) (modifyGetThe Session change') passage :=
  fun shape session placed => passes shape session placed

/-- Reading a context that may be replaced. -/
theorem readContextFrom {id : ContextId} {next next' : Context → SessionM β}
    (rest : ∀ shape (session : Session), session.At seam site depth shape →
      InStepFrom seam site depth shape session (next (session.recording.contextAt id))
        (next' (session.recording.contextAt id)) passage') :
    InStep seam site depth (contextOf id >>= next) (contextOf id >>= next') passage' :=
  fun shape session placed => rest shape session placed

/-- Replacing a context by what was made of it. -/
theorem setContextFrom {shape : List OpenSink} {session : Session} {id : ContextId}
    {context : Context} {next next' : SessionM β} (placed : session.At seam site depth shape)
    (grows : (session.recording.contextAt id).Grows context)
    (rest : InStep seam site depth next next' passage') :
    InStepFrom seam site depth shape session
      (modifyThe Recording (·.setContext id context) >>= fun _ => next)
      (modifyThe Recording (·.setContext id context) >>= fun _ => next') passage' :=
  rest shape { session with recording := session.recording.setContext id context }
    ⟨placed.recording.of_recorders_eq rfl (Recording.grows_setContext grows), placed.plain,
      placed.stages⟩

/-- Changing the recording alone. -/
theorem modifyGet {change change' : Recording → α × Recording}
    (passes : ∀ recording, change' (seam.recording depth recording) =
      (passage (change recording).1, seam.recording depth (change recording).2))
    (kept : ∀ shape (recording : Recording), recording.At site depth shape →
      (change recording).2.At site depth shape) :
    InStep seam site depth (modifyGetThe Recording change) (modifyGetThe Recording change')
      passage := by
  intro shape session placed
  refine ⟨?_, kept shape _ placed.recording, placed.plain, placed.stages⟩
  show ((change' (seam.recording depth session.recording)).1,
    { seam.session depth session with
      recording := (change' (seam.recording depth session.recording)).2 }) = _
  rw [passes]
  rfl

/-- Changing the innermost recorder. -/
theorem modifyActive {change change' : Recorder → Recorder}
    (passes : ∀ recorder, change' (seam.innermost depth recorder) =
      seam.innermost depth (change recorder))
    (kept : ∀ shape (recorder : Recorder), recorder.At site shape →
      (change recorder).At site shape) :
    InStep seam site depth (modifyThe Recording (·.modifyActive change))
      (modifyThe Recording (·.modifyActive change')) id := by
  refine modifyGet (fun recording => ?_) fun shape recording placed => ?_
  · exact congrArg (Prod.mk _) (Seam.modifyActive passes)
  · exact placed.modifyActive (fun _ => kept shape) fun _ => rfl

end InStep

end TrackedQuery
