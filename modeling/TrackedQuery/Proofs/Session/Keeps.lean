import TrackedQuery.Proofs.Session.Valid

/-!
# Computations that keep a session sound

A session is sound when its recording is, when every value and every query that is kept under a name
is valid where it may be used, and when its connections lead to databases as the rule asks
(`Session.Sound`).  `Keeps` says that a computation keeps it so, that the recording only grows, and
what holds of the answer.  Facts about the start of a computation are facts about everything later,
because validity is kept when the recording grows; this is what `Keeps.bind` passes on from one step
to the next.

## Names

Values may be kept under names and used in other clauses.  A handle is read anew at each use, so a
name for handles may be used anywhere.  Any other value belongs to the clause that it was built in.
The closures of the clauses being built form a stack, and each remembers the names of its own
values.
-/

namespace TrackedQuery

/-- What is asked of expressions, and which names are used for handles. -/
structure Scheme where
  rule : Rule
  shared : String → Prop

/-- The body of a clause that is being built. -/
structure Closure where
  /-- The query whose clause it is. -/
  context : ContextId
  /-- The names that its values are kept under. -/
  names : List String

/-- The names of the values of all closures. -/
def Closure.namesOf (stack : List Closure) : List String := stack.flatMap Closure.names

/-- A value that is kept under a name is valid where it may be used. -/
structure Term.KeptAs (scheme : Scheme) (stack : List Closure) (recording : Recording)
    (name : String) (term : Term) : Prop where
  lax : scheme.rule.strict = false → ∀ context, term.ValidIn scheme.rule recording context
  shared : scheme.shared name →
    (scheme.rule.strict = true → term.Roams) ∧ ∀ context, term.ValidIn scheme.rule recording context
  closures : ∀ closure ∈ stack, name ∈ closure.names →
    term.ValidIn scheme.rule recording closure.context

/-- Everything that was recorded, everything that is kept and every database that can be queried is
as the rule asks. -/
structure Session.Sound (scheme : Scheme) (stack : List Closure) (session : Session) : Prop where
  recording : session.recording.Sound scheme.rule (stack.map Closure.context)
  terms : ∀ name term, session.terms.get? name = some term →
    term.KeptAs scheme stack session.recording name
  stages : ∀ name stage, session.stages.get? name = some stage →
    stage.KeptAs scheme.rule session.recording
  connections : ∀ name connection, session.connections.get? name = some connection →
    scheme.rule.database connection.schema connection.options

theorem Term.KeptAs.mono {scheme : Scheme} {stack : List Closure} {before after : Recording}
    {name : String} {term : Term} (kept : term.KeptAs scheme stack before name)
    (grows : before.Grows after) : term.KeptAs scheme stack after name where
  lax lax context := (kept.lax lax context).mono grows
  shared shared :=
    ⟨(kept.shared shared).1, fun context => ((kept.shared shared).2 context).mono grows⟩
  closures closure mem named := (kept.closures closure mem named).mono grows

/-- Only the names of the closures that are being built matter. -/
theorem Term.KeptAs.within {scheme : Scheme} {stack stack' : List Closure} {recording : Recording}
    {name : String} {term : Term} (kept : term.KeptAs scheme stack recording name)
    (within : ∀ closure ∈ stack', name ∈ closure.names →
      ∃ wider ∈ stack, wider.context = closure.context ∧ name ∈ wider.names) :
    term.KeptAs scheme stack' recording name where
  lax := kept.lax
  shared := kept.shared
  closures closure mem named := by
    obtain ⟨wider, hwider, same, named⟩ := within closure mem named
    rw [← same]
    exact kept.closures wider hwider named

/-- A computation that keeps every session sound whose recording is the given one, from the closures
of one stack to those of another, and what it answers. -/
def Keeps (scheme : Scheme) (start : Recording) (stack : List Closure) {α : Type}
    (run : SessionM α) (stack' : List Closure) (post : Recording → α → Prop) : Prop :=
  ∀ session : Session, session.recording = start → session.Sound scheme stack →
    (run session).2.Sound scheme stack' ∧ start.Grows (run session).2.recording ∧
      post (run session).2.recording (run session).1

namespace Keeps

variable {scheme : Scheme} {start : Recording} {stack stack' stack'' : List Closure}
  {α β : Type} {run : SessionM α}

theorem pure {value : α} {post : Recording → α → Prop} (holds : post start value) :
    Keeps scheme start stack (Pure.pure value) stack post := by
  rintro session rfl sound
  exact ⟨sound, .refl _, holds⟩

theorem bind {next : α → SessionM β} {post : Recording → α → Prop}
    {post' : Recording → β → Prop} (first : Keeps scheme start stack run stack' post)
    (rest : ∀ recording value, start.Grows recording → post recording value →
      Keeps scheme recording stack' (next value) stack'' post') :
    Keeps scheme start stack (run >>= next) stack'' post' := by
  intro session here sound
  obtain ⟨middle_sound, middle_grows, holds⟩ := first session here sound
  obtain ⟨end_sound, end_grows, holds'⟩ := rest _ _ middle_grows holds _ rfl middle_sound
  exact ⟨end_sound, middle_grows.trans end_grows, holds'⟩

theorem weaken {post post' : Recording → α → Prop}
    (keeps : Keeps scheme start stack run stack' post)
    (implied : ∀ recording value, start.Grows recording → post recording value →
      post' recording value) : Keeps scheme start stack run stack' post' := by
  intro session here sound
  obtain ⟨end_sound, end_grows, holds⟩ := keeps session here sound
  exact ⟨end_sound, end_grows, implied _ _ end_grows holds⟩

/-- Answering a function of what a computation answers. -/
theorem map {post : Recording → α → Prop} {post' : Recording → β → Prop} {change : α → β}
    (keeps : Keeps scheme start stack run stack' post)
    (implied : ∀ recording value, start.Grows recording → post recording value →
      post' recording (change value)) :
    Keeps scheme start stack (run >>= fun value => Pure.pure (change value)) stack' post' :=
  keeps.bind fun recording value grows holds => .pure (implied recording value grows holds)

/-- What a computation answers, it answers in a session of the kind that it starts from. -/
theorem ran {post : Recording → α → Prop} (keeps : Keeps scheme start stack run stack' post) :
    Keeps scheme start stack run stack' fun recording value => post recording value ∧
      ∃ before after, before.recording = start ∧ run before = (value, after) ∧
        after.recording = recording ∧ after.Sound scheme stack' := by
  intro session here sound
  obtain ⟨end_sound, end_grows, holds⟩ := keeps session here sound
  exact ⟨end_sound, end_grows, holds, session, (run session).2, here, rfl, rfl, end_sound⟩

/-- Reading the recording. -/
theorem read {next : Recording → SessionM β} {post : Recording → β → Prop}
    (rest : start.Sound scheme.rule (stack.map Closure.context) →
      Keeps scheme start stack (next start) stack' post) :
    Keeps scheme start stack (getThe Recording >>= next) stack' post := by
  rintro session rfl sound
  exact rest sound.recording session rfl sound

/-- Reading a context of the recording. -/
theorem readContext {id : ContextId} {next : Context → SessionM β} {post : Recording → β → Prop}
    (rest : start.Sound scheme.rule (stack.map Closure.context) →
      Keeps scheme start stack (next (start.contextAt id)) stack' post) :
    Keeps scheme start stack (contextOf id >>= next) stack' post := by
  rintro session rfl sound
  exact rest sound.recording session rfl sound

/-- Reading the session. -/
theorem readSession {next : Session → SessionM β} {post : Recording → β → Prop}
    (rest : ∀ session : Session, session.recording = start → session.Sound scheme stack →
      Keeps scheme start stack (next session) stack' post) :
    Keeps scheme start stack (getThe Session >>= next) stack' post := by
  rintro session rfl sound
  exact rest session rfl sound session rfl sound

/-- Changing the recording alone. -/
theorem modifyGet {change : Recording → α × Recording} {post : Recording → α → Prop}
    (kept : start.Sound scheme.rule (stack.map Closure.context) →
      (change start).2.Sound scheme.rule (stack.map Closure.context) ∧
        start.Grows (change start).2 ∧ post (change start).2 (change start).1) :
    Keeps scheme start stack (modifyGetThe Recording change) stack post := by
  rintro session rfl sound
  obtain ⟨recording, grows, holds⟩ := kept sound.recording
  exact ⟨⟨recording, fun name term found => (sound.terms name term found).mono grows,
    fun name stage found => (sound.stages name stage found).mono grows, sound.connections⟩,
    grows, holds⟩

/-- Changing the recording alone, and answering nothing. -/
theorem modify {change : Recording → Recording} {post : Recording → Unit → Prop}
    (kept : start.Sound scheme.rule (stack.map Closure.context) →
      (change start).Sound scheme.rule (stack.map Closure.context) ∧
        start.Grows (change start) ∧ post (change start) ()) :
    Keeps scheme start stack (modifyThe Recording change) stack post := by
  show Keeps scheme start stack (modifyGetThe Recording fun recording => ((), change recording))
    stack post
  exact modifyGet kept

/-! ## Closures -/

/-- Names that nothing uses any longer may be forgotten. -/
theorem forget {names more : List String} {context : ContextId} {post : Recording → α → Prop}
    (keeps : Keeps scheme start stack run (⟨context, more ++ names⟩ :: stack') post) :
    Keeps scheme start stack run (⟨context, names⟩ :: stack') post := by
  intro session here sound
  obtain ⟨end_sound, end_grows, holds⟩ := keeps session here sound
  refine ⟨⟨end_sound.recording, fun name term found => ?_, end_sound.stages,
    end_sound.connections⟩, end_grows, holds⟩
  refine (end_sound.terms name term found).within fun closure mem named => ?_
  rcases List.mem_cons.mp mem with rfl | mem
  · exact ⟨_, List.mem_cons_self .., rfl, List.mem_append_right more named⟩
  · exact ⟨closure, List.mem_cons_of_mem _ mem, rfl, named⟩

/-- Beginning the body of a clause. -/
theorem beginClause {context : ContextId} {sink : Sink} (known : context < start.contexts.length)
    (obeys : sink.Obeys scheme.rule (start.levels context)) :
    Keeps scheme start stack (modifyThe Recording (·.beginClause context sink))
      (⟨context, []⟩ :: stack) (fun _ _ => True) := by
  rintro session rfl sound
  have grows : session.recording.Grows (session.recording.beginClause context sink) :=
    .of_contexts_eq rfl
  refine ⟨⟨sound.recording.beginClause known obeys, fun name term found => ?_,
    fun name stage found => (sound.stages name stage found).mono grows, sound.connections⟩, grows,
    trivial⟩
  refine ((sound.terms name term found).mono grows).within fun closure mem named => ?_
  rcases List.mem_cons.mp mem with rfl | mem
  · exact absurd named List.not_mem_nil
  · exact ⟨closure, mem, rfl, named⟩

/-- Ending the body of a clause. -/
theorem endClause {closure : Closure} :
    Keeps scheme start (closure :: stack) (modifyGetThe Recording (·.endClause)) stack
      (fun recording outcome => outcome.Meets scheme.rule fun sink =>
        sink.Obeys scheme.rule (recording.levels closure.context)) := by
  rintro session rfl sound
  have grows := Recording.Grows.of_contexts_eq session.recording.contexts_endClause
  obtain ⟨popped, tame, obeys⟩ := sound.recording.endClause
  -- the names of the closure that ends are no longer asked for
  refine ⟨⟨popped, fun name term found => ?_, fun name stage found =>
    (sound.stages name stage found).mono grows, sound.connections⟩, grows, tame, ?_⟩
  · exact ((sound.terms name term found).mono grows).within fun other mem named =>
      ⟨other, List.mem_cons_of_mem _ mem, rfl, named⟩
  · exact fun sink ended => (obeys sink ended).mono (grows.levels closure.context)

end Keeps

end TrackedQuery
