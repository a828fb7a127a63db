import TrackedQuery.Proofs.Query.Compile
import TrackedQuery.Proofs.Query.Growth
import TrackedQuery.Query.Recording

/-!
# The invariant of a recording

While queries are built, contexts are added and get more tables, and recorders are opened and
closed.  Nothing is taken back (`Recording.Grows`), so what resolves at the levels of a context
keeps resolving.  `Recording.Sound` says that every join of every context, and everything that an
open recorder has recorded, is as a rule asks at the levels of its own context.  Reading a column of
a table that is in scope resolves at the levels of the innermost recorder
(`Recording.Sound.resolveColumn`).
-/

namespace TrackedQuery

/-! ## Levels of contexts -/

namespace Recording

/-- The level that the query of a context adds to those around it. -/
def level (recording : Recording) (id : ContextId) : Level :=
  ⟨some id, fun table => table < (recording.contextAt id).nextAlias⟩

/-- The levels that columns are read from in a context. -/
def levels (recording : Recording) (id : ContextId) : List Level :=
  (recording.scope id).map recording.level

/-- Contexts were added, and existing ones have grown. -/
structure Grows (before after : Recording) : Prop where
  length : before.contexts.length ≤ after.contexts.length
  contexts : ∀ id < before.contexts.length, (before.contextAt id).Grows (after.contextAt id)

theorem Grows.refl (recording : Recording) : recording.Grows recording :=
  ⟨Nat.le_refl _, fun _ _ => .refl _⟩

theorem Grows.trans {first second third : Recording} (now : first.Grows second)
    (later : second.Grows third) : first.Grows third where
  length := Nat.le_trans now.length later.length
  contexts id known :=
    (now.contexts id known).trans (later.contexts id (Nat.lt_of_lt_of_le known now.length))

/-- What the contexts determine does not change with the recorders. -/
theorem Grows.of_contexts_eq {before after : Recording}
    (same : after.contexts = before.contexts) : before.Grows after := by
  refine ⟨Nat.le_of_eq (congrArg List.length same.symm), fun id _ => ?_⟩
  rw [contextAt, contextAt, same]
  exact .refl _

/-- A context that does not exist has the base table alone. -/
theorem nextAlias_of_unknown {recording : Recording} {id : ContextId}
    (unknown : ¬ id < recording.contexts.length) : (recording.contextAt id).nextAlias = 1 := by
  rw [contextAt, List.getElem?_eq_none (Nat.not_lt.mp unknown)]
  rfl

theorem Grows.tables {before after : Recording} (grows : before.Grows after) (id : ContextId) :
    (before.contextAt id).nextAlias ≤ (after.contextAt id).nextAlias := by
  by_cases known : id < before.contexts.length
  · exact (grows.contexts id known).nextAlias
  · rw [nextAlias_of_unknown known]
    exact Nat.succ_pos _

theorem Grows.base {before after : Recording} (grows : before.Grows after) {id : ContextId}
    (known : id < before.contexts.length) :
    (after.contextAt id).base = (before.contextAt id).base :=
  (grows.contexts id known).base

theorem Grows.enclosing {before after : Recording} (grows : before.Grows after) {id : ContextId}
    (known : id < before.contexts.length) :
    (after.contextAt id).enclosing = (before.contextAt id).enclosing :=
  (grows.contexts id known).enclosing

private theorem Grows.level {before after : Recording} (grows : before.Grows after)
    (id : ContextId) :
    (before.level id).Grows (after.level id) :=
  ⟨rfl, fun _ has => Nat.lt_of_lt_of_le has (grows.tables id)⟩

theorem Grows.map_level {before after : Recording} (grows : before.Grows after)
    (ids : List ContextId) : LevelsGrow (ids.map before.level) (ids.map after.level) := by
  induction ids with
  | nil => exact .refl _
  | cons id rest ih => exact .cons (grows.level id) ih

/-- A context that does not exist has no other around it. -/
theorem enclosing_of_unknown {recording : Recording} {id : ContextId}
    (unknown : ¬ id < recording.contexts.length) : (recording.contextAt id).enclosing = [] := by
  rw [contextAt, List.getElem?_eq_none (Nat.not_lt.mp unknown)]
  rfl

theorem Grows.levels {before after : Recording} (grows : before.Grows after) (id : ContextId) :
    LevelsGrow (before.levels id) (after.levels id) := by
  refine .cons (grows.level id) ?_
  by_cases known : id < before.contexts.length
  · rw [grows.enclosing known]
    exact grows.map_level _
  · rw [enclosing_of_unknown known]
    exact .nil _

/-- The scope of a context stays as it is. -/
theorem Grows.scope {before after : Recording} (grows : before.Grows after) {id : ContextId}
    (known : id < before.contexts.length) : after.scope id = before.scope id := by
  rw [Recording.scope, Recording.scope, grows.enclosing known]

/-- A context has its own identifier, its joins are as the rule asks, and the contexts around it
were made before it, the outermost first. -/
structure ContextSound (rule : Rule) (recording : Recording) (id : ContextId) : Prop where
  named : (recording.contextAt id).id = id
  context : (recording.contextAt id).Sound rule
    ((recording.contextAt id).enclosing.map recording.level)
  ordered : (recording.scope id).Pairwise (· > ·)

/-- `ContextSound` of every context. -/
def ContextsSound (rule : Rule) (recording : Recording) : Prop :=
  ∀ id < recording.contexts.length, recording.ContextSound rule id

theorem ContextsSound.level_eq {rule : Rule} {recording : Recording}
    (sound : recording.ContextsSound rule) {id : ContextId}
    (known : id < recording.contexts.length) :
    (recording.contextAt id).level = recording.level id := by
  unfold Context.level level
  rw [(sound id known).named]

/-- What is known of the contexts does not change with the recorders. -/
theorem ContextsSound.setRecorders {rule : Rule} {recording : Recording}
    (sound : recording.ContextsSound rule) (recorders : List Recorder) :
    ContextsSound rule { recording with recorders := recorders } := by
  intro id known
  obtain ⟨named, context_sound, ordered⟩ := sound id known
  exact ⟨named, context_sound, ordered⟩

/-- A context that is made inside another one is younger than all those around it. -/
theorem ContextsSound.ordered_inside {rule : Rule} {recording : Recording}
    (sound : recording.ContextsSound rule) {parent : ContextId}
    (known : parent < recording.contexts.length) :
    (recording.contexts.length :: recording.scope parent).Pairwise (· > ·) := by
  have ordered := (sound parent known).ordered
  refine List.pairwise_cons.mpr ⟨List.forall_mem_cons.mpr ⟨known, fun outer mem => ?_⟩, ordered⟩
  exact Nat.lt_trans ((List.pairwise_cons.mp ordered).1 outer mem) known

end Recording

/-! ## Changes of contexts -/

/-- What is obeyed stays so when levels are added outside or grow. -/
theorem Context.Sound.mono {rule : Rule} {context : Context} {outer wider : List Level}
    (sound : context.Sound rule outer) (grow : LevelsGrow outer wider) :
    context.Sound rule wider where
  aliases := sound.aliases
  joins join mem := by
    obtain ⟨condition, rows⟩ := Join.obeys_iff.mp (sound.joins join mem)
    have inside := fun _ : rule.strict = true => LevelsGrow.cons (.refl context.level) grow
    exact Join.obeys_iff.mpr
      ⟨condition.mono inside, fun nested mem => (rows nested mem).mono inside⟩
  paths := sound.paths
  database := sound.database

namespace Recording

variable {rule : Rule} {recording : Recording}

private theorem contextAt_addContext_of_known (context : Context) {id : ContextId}
    (known : id < recording.contexts.length) :
    (recording.addContext context).2.contextAt id = recording.contextAt id := by
  simp [addContext, contextAt, List.getElem?_append_left known]

theorem grows_addContext (context : Context) :
    recording.Grows (recording.addContext context).2 := by
  refine ⟨by simp [addContext], fun id known => ?_⟩
  rw [contextAt_addContext_of_known context known]
  exact .refl _

theorem ContextsSound.addContext (sound : recording.ContextsSound rule) {context : Context}
    (joins : context.joins = []) (paths : context.paths = [])
    (database : rule.database context.schema context.options)
    (ordered : (recording.contexts.length :: context.enclosing).Pairwise (· > ·)) :
    (recording.addContext context).2.ContextsSound rule := by
  have grows := recording.grows_addContext context
  intro id inside
  by_cases known : id < recording.contexts.length
  · obtain ⟨named, context_sound, older⟩ := sound id known
    refine ⟨?_, ?_, by rwa [grows.scope known]⟩
    · rw [contextAt_addContext_of_known context known, named]
    · rw [contextAt_addContext_of_known context known]
      exact context_sound.mono (grows.map_level _)
  · -- the new context has no joins yet
    obtain rfl : id = recording.contexts.length := by
      simp only [Recording.addContext, List.length_append, List.length_singleton] at inside
      omega
    have added := recording.contextAt_addContext context
    rw [show recording.contexts.length = (recording.addContext context).1 from rfl]
    refine ⟨?_, ?_, ?_⟩
    · rw [added]
      rfl
    · rw [added]
      exact ⟨by simp [joins], by simp [joins], by simp [paths], database⟩
    · rw [Recording.scope, added]
      exact ordered

/-- Replacing a context by one that it has grown to. -/
theorem grows_setContext {id : ContextId} {context : Context}
    (grown : (recording.contextAt id).Grows context) :
    recording.Grows (recording.setContext id context) := by
  refine ⟨by simp [setContext], fun other known => ?_⟩
  by_cases same : other = id
  · subst same
    rw [contextAt_setContext_self known]
    exact grown
  · rw [contextAt_setContext_of_ne recording same]
    exact .refl _

theorem ContextsSound.setContext (sound : recording.ContextsSound rule) {id : ContextId}
    {context : Context} (grown : (recording.contextAt id).Grows context)
    (replaced : context.Sound rule ((recording.contextAt id).enclosing.map recording.level)) :
    (recording.setContext id context).ContextsSound rule := by
  have grows := grows_setContext grown
  intro other inside
  have known : other < recording.contexts.length := by
    simpa [Recording.setContext] using inside
  -- the context itself was checked by its caller; the others only see one of their levels grow
  by_cases same : other = id
  · subst same
    refine ⟨?_, ?_, by rw [grows.scope known]; exact (sound other known).ordered⟩
    · rw [contextAt_setContext_self known, grown.id, (sound other known).named]
    · rw [contextAt_setContext_self known, grown.enclosing]
      exact replaced.mono (grows.map_level _)
  · obtain ⟨own, context_sound, older⟩ := sound other known
    refine ⟨?_, ?_, by rwa [grows.scope known]⟩
    · rw [contextAt_setContext_of_ne recording same, own]
    · rw [contextAt_setContext_of_ne recording same]
      exact context_sound.mono (grows.map_level _)

end Recording

/-! ## Sinks and recorders -/

/-- What a sink holds is as the rule asks. -/
def Sink.Obeys (rule : Rule) (around : List Level) : Sink → Prop
  | .predicates slots => ∀ statement, some statement ∈ slots → statement.Obeys rule around
  | .order keys => ∀ key ∈ keys, key.expr.Obeys rule around
  | .values => True

namespace Sink

variable {rule : Rule} {around wider : List Level} {sink : Sink}

theorem Obeys.mono (obeys : sink.Obeys rule around) (grow : LevelsGrow around wider) :
    sink.Obeys rule wider := by
  cases sink with
  | predicates slots => exact fun statement mem => (obeys statement mem).mono fun _ => grow
  | order keys => exact fun key mem => (obeys key mem).mono fun _ => grow
  | values => trivial

theorem Obeys.statements (obeys : sink.Obeys rule around) :
    ∀ statement ∈ sink.statements, statement.Obeys rule around := by
  cases sink with
  | predicates slots =>
      intro statement mem
      exact obeys statement (by simpa [Sink.statements] using mem)
  | order keys => simp [Sink.statements]
  | values => simp [Sink.statements]

theorem Obeys.sortKeys (obeys : sink.Obeys rule around) :
    ∀ key ∈ sink.sortKeys, key.expr.Obeys rule around := by
  cases sink with
  | predicates slots => simp [Sink.sortKeys]
  | order keys => exact obeys
  | values => simp [Sink.sortKeys]

theorem Obeys.setSlot (obeys : sink.Obeys rule around) (index : Nat) {content : Option Expr}
    (placed : ∀ statement ∈ content, statement.Obeys rule around) :
    (sink.setSlot index content).Obeys rule around := by
  cases sink with
  | predicates slots =>
      intro statement mem
      rcases List.mem_or_eq_of_mem_set mem with mem | same
      · exact obeys statement mem
      · exact placed statement same.symm
  | order keys => exact obeys
  | values => trivial

end Sink

/-- Everything that a recorder has recorded is as the rule asks, and the error it was told is not
about a foreign alias. -/
structure Recorder.Sound (rule : Rule) (around : List Level) (recorder : Recorder) : Prop where
  sinks : ∀ entry ∈ recorder.sinks, entry.sink.Obeys rule around
  error : ∀ error ∈ recorder.error, error.IsTame rule

namespace Recorder

variable {rule : Rule} {around wider : List Level} {recorder : Recorder}

theorem Sound.mono (sound : recorder.Sound rule around) (grow : LevelsGrow around wider) :
    recorder.Sound rule wider :=
  ⟨fun entry mem => (sound.sinks entry mem).mono grow, sound.error⟩

private theorem sound_start {context : ContextId} {sink : Sink} (obeys : sink.Obeys rule around) :
    (start context sink).Sound rule around :=
  ⟨List.forall_mem_singleton.mpr obeys, by simp [start]⟩

theorem Sound.report (sound : recorder.Sound rule around) {error : Error}
    (tame : error.IsTame rule) : (recorder.report error).Sound rule around := by
  refine ⟨sound.sinks, fun reported mem => ?_⟩
  unfold Recorder.report at mem
  cases earlier : recorder.error with
  | none =>
      rw [earlier] at mem
      cases mem
      exact tame
  | some first =>
      rw [earlier] at mem
      cases mem
      exact sound.error _ earlier

theorem Sound.recordPredicate (sound : recorder.Sound rule around) {statement : Expr}
    (obeys : statement.Obeys rule around) :
    (recorder.recordPredicate statement).2.Sound rule around := by
  unfold Recorder.recordPredicate
  split
  · next number slots outer hsinks =>
      have sinks := sound.sinks
      rw [hsinks, List.forall_mem_cons] at sinks
      refine ⟨List.forall_mem_cons.mpr ⟨fun recorded mem => ?_, sinks.2⟩, sound.error⟩
      rcases List.mem_append.mp mem with mem | mem
      · exact sinks.1 recorded mem
      · cases List.mem_singleton.mp mem
        exact obeys
  · exact sound

theorem Sound.recordSortKey (sound : recorder.Sound rule around) {key : SortKey}
    (obeys : key.expr.Obeys rule around) : (recorder.recordSortKey key).Sound rule around := by
  unfold Recorder.recordSortKey
  split
  · next number keys outer hsinks =>
      have sinks := sound.sinks
      rw [hsinks, List.forall_mem_cons] at sinks
      refine ⟨List.forall_mem_cons.mpr ⟨fun recorded mem => ?_, sinks.2⟩, sound.error⟩
      rcases List.mem_append.mp mem with mem | mem
      · exact sinks.1 recorded mem
      · cases List.mem_singleton.mp mem
        exact obeys
  · refine sound.report fun _ ⟨table, entity, foreign⟩ => ?_
    simp at foreign

theorem Sound.setSlot (sound : recorder.Sound rule around) (slot : Slot) {content : Option Expr}
    (placed : ∀ statement ∈ content, statement.Obeys rule around) :
    (recorder.setSlot slot content).Sound rule around := by
  refine ⟨fun entry mem => ?_, sound.error⟩
  obtain ⟨earlier, hearlier, rfl⟩ := List.mem_map.mp mem
  have obeys := sound.sinks earlier hearlier
  split
  · exact obeys.setSlot slot.index placed
  · exact obeys

theorem Sound.openSink (sound : recorder.Sound rule around) {sink : Sink}
    (obeys : sink.Obeys rule around) : (recorder.openSink sink).Sound rule around :=
  ⟨List.forall_mem_cons.mpr ⟨obeys, sound.sinks⟩, sound.error⟩

theorem Sound.closeSink (sound : recorder.Sound rule around) :
    recorder.closeSink.1.Obeys rule around ∧ recorder.closeSink.2.Sound rule around := by
  unfold Recorder.closeSink
  split
  · exact ⟨trivial, sound⟩
  · next innermost outer hsinks =>
      have sinks := sound.sinks
      rw [hsinks, List.forall_mem_cons] at sinks
      exact ⟨sinks.1, sinks.2, sound.error⟩

/-- The outcome of a clause is as the rule asks. -/
theorem Sound.finish (sound : recorder.Sound rule around) :
    recorder.finish.IsTame rule ∧ ∀ sink, recorder.finish = .ok sink → sink.Obeys rule around := by
  unfold Recorder.finish
  split
  · next error reported =>
      refine ⟨fun failure failed => ?_, fun sink finished => by cases finished⟩
      cases failed
      exact sound.error error reported
  · refine ⟨Result.isTame_ok _, fun sink finished => ?_⟩
    cases finished
    exact sound.closeSink.1

end Recorder

/-! ## Recordings -/

namespace Recording

/-- The recorders are those of the given contexts, innermost first, and everything that has been
recorded is as the rule asks. -/
structure Sound (rule : Rule) (stack : List ContextId) (recording : Recording) : Prop where
  contexts : recording.ContextsSound rule
  stacked : recording.recorders.map Recorder.context = stack
  known : ∀ id ∈ stack, id < recording.contexts.length
  recorders : ∀ recorder ∈ recording.recorders,
    recorder.Sound rule (recording.levels recorder.context)

variable {rule : Rule} {recording : Recording} {stack : List ContextId} {context : ContextId}

theorem sound_empty (rule : Rule) : empty.Sound rule [] := by
  refine ⟨fun id inside => ?_, rfl, List.forall_mem_nil _, List.forall_mem_nil _⟩
  exact absurd inside (Nat.not_lt_zero id)

/-- Changes of contexts keep what was recorded. -/
theorem Sound.changeContexts (sound : recording.Sound rule stack) {changed : Recording}
    (grows : recording.Grows changed) (recorders : changed.recorders = recording.recorders)
    (contexts : changed.ContextsSound rule) : changed.Sound rule stack where
  contexts := contexts
  stacked := recorders ▸ sound.stacked
  known id mem := Nat.lt_of_lt_of_le (sound.known id mem) grows.length
  recorders recorder mem :=
    (sound.recorders recorder (recorders ▸ mem)).mono (grows.levels recorder.context)

/-- The innermost recorder. -/
theorem Sound.innermost (sound : recording.Sound rule (context :: stack)) :
    ∃ recorder outer, recording.recorders = recorder :: outer ∧ recorder.context = context ∧
      recorder.Sound rule (recording.levels context) := by
  cases hrecorders : recording.recorders with
  | nil =>
      have := sound.stacked
      simp [hrecorders] at this
  | cons recorder outer =>
      have contexts := sound.stacked
      rw [hrecorders, List.map_cons, List.cons.injEq] at contexts
      refine ⟨recorder, outer, rfl, contexts.1, ?_⟩
      rw [← contexts.1]
      exact sound.recorders recorder (hrecorders ▸ List.mem_cons_self ..)

/-- Replacing the innermost recorder. -/
theorem Sound.setInnermost (sound : recording.Sound rule (context :: stack)) {recorder : Recorder}
    (same : recorder.context = context)
    (replaced : recorder.Sound rule (recording.levels context)) :
    Sound rule (context :: stack)
      { recording with recorders := recorder :: recording.recorders.tail } := by
  obtain ⟨earlier, outer, hrecorders, -, -⟩ := sound.innermost
  have contexts := sound.stacked
  rw [hrecorders, List.map_cons, List.cons.injEq] at contexts
  refine ⟨sound.contexts.setRecorders _, ?_, sound.known, ?_⟩
  · simp [hrecorders, same, contexts.2]
  · refine List.forall_mem_cons.mpr ⟨?_, fun other mem => ?_⟩
    · rw [same]
      exact replaced
    · exact sound.recorders other (List.mem_of_mem_tail mem)

theorem Sound.modifyActive (sound : recording.Sound rule (context :: stack))
    {change : Recorder → Recorder} (same : ∀ recorder, (change recorder).context = recorder.context)
    (keeps : ∀ recorder : Recorder, recorder.Sound rule (recording.levels context) →
      (change recorder).Sound rule (recording.levels context)) :
    (recording.modifyActive change).Sound rule (context :: stack) := by
  obtain ⟨recorder, outer, hrecorders, hcontext, recorded⟩ := sound.innermost
  have replaced := sound.setInnermost ((same recorder).trans hcontext) (keeps recorder recorded)
  unfold Recording.modifyActive
  rw [hrecorders] at replaced ⊢
  exact replaced

theorem Sound.beginClause (sound : recording.Sound rule stack)
    (known : context < recording.contexts.length) {sink : Sink}
    (obeys : sink.Obeys rule (recording.levels context)) :
    (recording.beginClause context sink).Sound rule (context :: stack) where
  contexts := sound.contexts.setRecorders _
  stacked := by rw [Recording.beginClause, List.map_cons, sound.stacked]; rfl
  known := List.forall_mem_cons.mpr ⟨known, sound.known⟩
  recorders := List.forall_mem_cons.mpr ⟨Recorder.sound_start obeys, sound.recorders⟩

theorem Sound.endClause (sound : recording.Sound rule (context :: stack)) :
    recording.endClause.2.Sound rule stack ∧ recording.endClause.1.IsTame rule ∧
      ∀ sink, recording.endClause.1 = .ok sink → sink.Obeys rule (recording.levels context) := by
  obtain ⟨recorder, outer, hrecorders, -, recorded⟩ := sound.innermost
  have contexts := sound.stacked
  rw [hrecorders, List.map_cons, List.cons.injEq] at contexts
  unfold Recording.endClause
  rw [hrecorders]
  have known := (List.forall_mem_cons.mp sound.known).2
  refine ⟨⟨sound.contexts.setRecorders _, contexts.2, known, ?_⟩, recorded.finish⟩
  intro other mem
  exact sound.recorders other (hrecorders ▸ List.mem_cons_of_mem _ mem)

/-! ## Reading columns -/

/-- A column of a table in scope is read at the level of its table, as the column it is. -/
theorem Sound.resolveColumn (sound : recording.Sound rule (context :: stack))
    {source : ContextId} {table : Alias} {column : Nat} {ref : ColumnRef}
    (known : table < (recording.contextAt source).nextAlias)
    (read : recording.resolveColumn source table column = .ok ref) :
    ref.Resolves (recording.levels context) := by
  obtain ⟨recorder, outer, hrecorders, rfl, -⟩ := sound.innermost
  unfold Recording.resolveColumn active? at read
  rw [hrecorders] at read
  simp only [List.head?_cons] at read
  split at read
  · next nesting found =>
      cases read
      -- the position that was counted is the one of the level of the table
      obtain ⟨inside, same, -⟩ := List.idxOf?_eq_some_iff.mp found
      refine ⟨recording.level source, ?_, known, fun bound hbound => ?_⟩
      · rw [levels, List.getElem?_map, List.getElem?_eq_getElem inside, same]
        rfl
      · cases hbound
        exact ⟨rfl, rfl, rfl⟩
  · cases read

theorem isTame_resolveColumn (source : ContextId) (table : Alias) (column : Nat) :
    Result.IsTame rule (recording.resolveColumn source table column) := by
  unfold resolveColumn
  split
  · exact Result.isTame_ok _
  · split
    · exact Result.isTame_ok _
    · exact Result.isTame_fail (by simp)

end Recording

end TrackedQuery
