import TrackedQuery.Query.Context

/-!
# Recording clauses

A clause of a query is built by a body that reads columns and combines them.  What the body builds
is recorded on the side: the clause opens a recorder with one sink, every comparison adds a
statement to the innermost sink, and every mistake is reported to the recorder.  When the body has
run, the clause takes the sink back, or the first error that was reported.

Bodies nest.  A nested query inside a body opens recorders of its own, and the filter of an
aggregate opens a further sink in the recorder it is built in.  So there is a stack of recorders,
each with a stack of sinks, and everything below addresses the innermost recorder alone.

## Slots

A predicate statement is recorded in a slot, because a statement that becomes part of another one
has to leave its place again.  A slot names the sink by the number the recorder gave it and the
position in it.  Without a recorder, or without a sink of that number, or without that position, a
slot addresses nothing.

The clause-building functions run in any monad whose state has a `Recording`, so that bodies may do
more than record.
-/

namespace TrackedQuery

/-! ## Sinks and recorders -/

/-- Where the statements of a body go. -/
inductive Sink where
  /-- Predicate statements.  A slot is empty once its statement has become part of another one. -/
  | predicates (slots : List (Option Expr))
  /-- Sort keys. -/
  | order (keys : List SortKey)
  /-- Nothing is recorded: the body answers with its result. -/
  | values

namespace Sink

/-- The recorded predicate statements, in the order of their slots. -/
def statements : Sink → List Expr
  | .predicates slots => slots.filterMap id
  | .order _ | .values => []

/-- The recorded sort keys. -/
def sortKeys : Sink → List SortKey
  | .order keys => keys
  | .predicates _ | .values => []

/-- Changes the content of a predicate slot; other sinks, and positions past the end, stay as they
are. -/
def setSlot (sink : Sink) (index : Nat) (content : Option Expr) : Sink :=
  match sink with
  | .predicates slots => .predicates (slots.set index content)
  | .order keys => .order keys
  | .values => .values

end Sink

/-- The place of a predicate statement: the number of a sink and a position in it. -/
structure Slot where
  sink : Nat
  index : Nat
deriving DecidableEq

/-- A sink under the number its recorder gave it. -/
structure OpenSink where
  number : Nat
  sink : Sink

/-- What is recorded for one clause. -/
structure Recorder where
  /-- The query whose clause is being built. -/
  context : ContextId
  /-- The open sinks, innermost first. -/
  sinks : List OpenSink
  /-- The number of the next sink. -/
  nextSink : Nat
  /-- The first error reported. -/
  error : Option Error

namespace Recorder

/-- A recorder with one sink, which gets the number 0. -/
def start (context : ContextId) (sink : Sink) : Recorder := ⟨context, [⟨0, sink⟩], 1, none⟩

/-- Keeps the first error that is reported. -/
def report (recorder : Recorder) (error : Error) : Recorder :=
  { recorder with error := recorder.error <|> some error }

/-- Adds a predicate statement, if the innermost sink takes predicates, and answers its slot. -/
def recordPredicate (recorder : Recorder) (statement : Expr) : Option Slot × Recorder :=
  match recorder.sinks with
  | ⟨number, .predicates slots⟩ :: outer =>
      (some ⟨number, slots.length⟩,
        { recorder with sinks := ⟨number, .predicates (slots ++ [some statement])⟩ :: outer })
  | _ => (none, recorder)

/-- Adds a sort key.  That the innermost sink takes none is an error. -/
def recordSortKey (recorder : Recorder) (key : SortKey) : Recorder :=
  match recorder.sinks with
  | ⟨number, .order keys⟩ :: outer =>
      { recorder with sinks := ⟨number, .order (keys ++ [key])⟩ :: outer }
  | _ => recorder.report (Cause.invalidStatement .orderingOutsideOrderBy)

/-- Changes the content of a slot. -/
def setSlot (recorder : Recorder) (slot : Slot) (content : Option Expr) : Recorder :=
  { recorder with
    sinks := recorder.sinks.map fun entry =>
      if entry.number = slot.sink then ⟨entry.number, entry.sink.setSlot slot.index content⟩
      else entry }

/-- Opens a sink inside the innermost one. -/
def openSink (recorder : Recorder) (sink : Sink) : Recorder :=
  { recorder with
    sinks := ⟨recorder.nextSink, sink⟩ :: recorder.sinks
    nextSink := recorder.nextSink + 1 }

/-- Closes the innermost sink. -/
def closeSink (recorder : Recorder) : Sink × Recorder :=
  match recorder.sinks with
  | [] => (.values, recorder)
  | innermost :: outer => (innermost.sink, { recorder with sinks := outer })

/-- The outcome of the clause: the first error, or the innermost sink. -/
def finish (recorder : Recorder) : Result Sink :=
  match recorder.error with
  | some error => .error error
  | none => .ok recorder.closeSink.1

end Recorder

/-! ## The recording -/

/-- Every query under construction, and the clauses being built. -/
structure Recording where
  /-- The contexts; a `ContextId` is a position in this list. -/
  contexts : List Context
  /-- The recorders, innermost first. -/
  recorders : List Recorder

namespace Recording

/-- No query under construction. -/
def empty : Recording := ⟨[], []⟩

/-- A context.  Where there is none, an empty one stands in. -/
def contextAt (recording : Recording) (id : ContextId) : Context :=
  recording.contexts[id]?.getD (.start ⟨[]⟩ .standard [] "")

/-- Adds a context under the next identifier. -/
def addContext (recording : Recording) (context : Context) : ContextId × Recording :=
  let id := recording.contexts.length
  (id, { recording with contexts := recording.contexts ++ [{ context with id := id }] })

/-- Replaces a context. -/
def setContext (recording : Recording) (id : ContextId) (context : Context) : Recording :=
  { recording with contexts := recording.contexts.set id context }

theorem contextAt_addContext (recording : Recording) (context : Context) :
    (recording.addContext context).2.contextAt (recording.addContext context).1 =
      { context with id := recording.contexts.length } := by
  simp [addContext, contextAt]

theorem contextAt_setContext_self {recording : Recording} {id : ContextId}
    (known : id < recording.contexts.length) (context : Context) :
    (recording.setContext id context).contextAt id = context := by
  simp [setContext, contextAt, known]

/-- Replacing one context leaves the others alone. -/
theorem contextAt_setContext_of_ne (recording : Recording) {other id : ContextId}
    (distinct : other ≠ id) (context : Context) :
    (recording.setContext id context).contextAt other = recording.contextAt other := by
  simp [setContext, contextAt, List.getElem?_set_ne (Ne.symm distinct)]

/-- The innermost recorder. -/
def active? (recording : Recording) : Option Recorder := recording.recorders.head?

/-- Changes the innermost recorder, if there is one. -/
def modifyActive (recording : Recording) (change : Recorder → Recorder) : Recording :=
  match recording.recorders with
  | [] => recording
  | recorder :: outer => { recording with recorders := change recorder :: outer }

/-- Reports an error to the innermost recorder.  Outside of a clause it is dropped. -/
def report (recording : Recording) (error : Error) : Recording :=
  recording.modifyActive (·.report error)

/-- Records a predicate statement in the innermost recorder. -/
def recordPredicate (recording : Recording) (statement : Expr) : Option Slot × Recording :=
  match recording.recorders with
  | [] => (none, recording)
  | recorder :: outer =>
      let (slot, recorder) := recorder.recordPredicate statement
      (slot, { recording with recorders := recorder :: outer })

/-- Records a sort key in the innermost recorder. -/
def recordSortKey (recording : Recording) (key : SortKey) : Recording :=
  recording.modifyActive (·.recordSortKey key)

/-- Changes the content of a slot of the innermost recorder. -/
def setSlot (recording : Recording) (slot : Slot) (content : Option Expr) : Recording :=
  recording.modifyActive (·.setSlot slot content)

/-- Opens a sink in the innermost recorder. -/
def openSink (recording : Recording) (sink : Sink) : Recording :=
  recording.modifyActive (·.openSink sink)

/-- Closes the innermost sink of the innermost recorder.  Outside of a clause nothing was
recorded. -/
def closeSink (recording : Recording) : Sink × Recording :=
  match recording.recorders with
  | [] => (.values, recording)
  | recorder :: outer =>
      let (sink, recorder) := recorder.closeSink
      (sink, { recording with recorders := recorder :: outer })

/-- Opens a recorder for a clause. -/
def beginClause (recording : Recording) (context : ContextId) (sink : Sink) : Recording :=
  { recording with recorders := .start context sink :: recording.recorders }

/-- Closes the innermost recorder. -/
def endClause (recording : Recording) : Result Sink × Recording :=
  match recording.recorders with
  | [] => (.ok .values, recording)
  | recorder :: outer => (recorder.finish, { recording with recorders := outer })

/-! What is recorded does not change the contexts. -/

theorem contexts_modifyActive (recording : Recording) (change : Recorder → Recorder) :
    (recording.modifyActive change).contexts = recording.contexts := by
  unfold modifyActive
  split <;> rfl

theorem contexts_recordPredicate (recording : Recording) (statement : Expr) :
    (recording.recordPredicate statement).2.contexts = recording.contexts := by
  unfold recordPredicate
  split <;> rfl

theorem contexts_closeSink (recording : Recording) :
    recording.closeSink.2.contexts = recording.contexts := by
  unfold closeSink
  split <;> rfl

theorem contexts_endClause (recording : Recording) :
    recording.endClause.2.contexts = recording.contexts := by
  unfold endClause
  split <;> rfl

/-- The contexts that columns may be read from in a context: itself, and those around it. -/
def scope (recording : Recording) (id : ContextId) : List ContextId :=
  id :: (recording.contextAt id).enclosing

/-- The reference by which the query being recorded reads a column of a table of a context.  Outside
of a clause every column is read as a local one. -/
def resolveColumn (recording : Recording) (context : ContextId) (table : Alias) (column : Nat) :
    Result ColumnRef :=
  match recording.active? with
  | none => .ok ⟨0, table, column, some ⟨context, table, column⟩⟩
  | some recorder =>
      match (recording.scope recorder.context).idxOf? context with
      | some nesting => .ok ⟨nesting, table, column, some ⟨context, table, column⟩⟩
      | none =>
          fail (.invalidStatement (.columnOutOfScope (recording.contextAt context).base))

end Recording

/-! ## Building blocks of clauses -/

section Building

variable {m : Type → Type} [Monad m] [MonadStateOf Recording m] {α : Type}

/-- Reports an error to the clause being built. -/
def reportError (error : Error) : m Unit := modifyThe Recording (·.report error)

/-- Runs a body under a recorder of its own, and answers what the body answered together with what
it recorded, or else the first error it reported. -/
def recordClause (context : ContextId) (sink : Sink) (body : m α) : m (Result (α × Sink)) := do
  modifyThe Recording (·.beginClause context sink)
  let answer ← body
  let outcome ← modifyGetThe Recording (·.endClause)
  return outcome.map fun recorded => (answer, recorded)

/-- Runs a body under a further sink of the clause being built, and answers what it recorded. -/
def recordInside (sink : Sink) (body : m Unit) : m Sink := do
  modifyThe Recording (·.openSink sink)
  body
  modifyGetThe Recording (·.closeSink)

/-- The context of an identifier. -/
def contextOf (id : ContextId) : m Context := return (← getThe Recording).contextAt id

end Building

end TrackedQuery
