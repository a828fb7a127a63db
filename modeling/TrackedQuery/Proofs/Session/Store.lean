import TrackedQuery.Proofs.Session.Query
import TrackedQuery.Program.Evaluate

/-!
# What a session keeps under names

A value that is kept can be used again in the closure that kept it, and a handle in every closure
(`Session.keeps_keepTerm`, `Session.keeps_takeTerm`).  For that, a name that a closure uses for
other values must not be used by a closure inside it.

Questions that are asked on the way change neither the queries under construction nor what is kept
(`Session.apart_ask`).  A program begins with a new query, or with one that an earlier program has
left under a name (`Session.keeps_begin`).
-/

namespace TrackedQuery

variable {scheme : Scheme} {start : Recording} {stack : List Closure}

/-! ## Computations apart from queries -/

/-- A computation that leaves the queries under construction, the values and the queries that are
kept, and the connections as they are. -/
def SessionM.Apart {α : Type} (run : SessionM α) : Prop :=
  ∀ session : Session, (run session).2.recording = session.recording ∧
    (run session).2.terms = session.terms ∧ (run session).2.stages = session.stages ∧
    (run session).2.connections = session.connections

namespace SessionM.Apart

variable {α β : Type} {run : SessionM α}

theorem pure (value : α) : Apart (Pure.pure value) := fun _ => ⟨rfl, rfl, rfl, rfl⟩

theorem bind (first : Apart run) {next : α → SessionM β} (rest : ∀ value, Apart (next value)) :
    Apart (run >>= next) := by
  intro session
  obtain ⟨recording, terms, stages, connections⟩ := first session
  obtain ⟨recording', terms', stages', connections'⟩ := rest (run session).1 (run session).2
  exact ⟨recording'.trans recording, terms'.trans terms, stages'.trans stages,
    connections'.trans connections⟩

private theorem get : Apart (getThe Session) := fun _ => ⟨rfl, rfl, rfl, rfl⟩

theorem keeps (apart : Apart run) : Keeps scheme start stack run stack (fun _ _ => True) := by
  rintro session rfl sound
  obtain ⟨recording, terms, stages, connections⟩ := apart session
  refine ⟨⟨?_, ?_, ?_, ?_⟩, ?_, trivial⟩
  · rw [recording]
    exact sound.recording
  · rw [recording, terms]
    exact sound.terms
  · rw [recording, stages]
    exact sound.stages
  · rw [connections]
    exact sound.connections
  · rw [recording]
    exact .refl _

end SessionM.Apart

namespace Session

theorem apart_observe (observation : Observation) : SessionM.Apart (observe observation) :=
  fun _ => ⟨rfl, rfl, rfl, rfl⟩

theorem apart_typeOf (name : String) : SessionM.Apart (typeOf name) :=
  fun _ => ⟨rfl, rfl, rfl, rfl⟩

theorem apart_inWorld {α : Type} (run : WorldM Script α) : SessionM.Apart (inWorld run) :=
  fun _ => ⟨rfl, rfl, rfl, rfl⟩

theorem apart_saveInstances (name : String) (found : List Instance) :
    SessionM.Apart (saveInstances name found) :=
  fun _ => ⟨rfl, rfl, rfl, rfl⟩

theorem apart_keepFlight (name : String) (flight : Flight) :
    SessionM.Apart (keepFlight name flight) :=
  fun _ => ⟨rfl, rfl, rfl, rfl⟩

private theorem apart_finishTask (task : Result Task) (saveAs : Option String) :
    SessionM.Apart (finishTask task saveAs) := by
  unfold finishTask
  split
  · exact .pure _
  · refine (apart_inWorld _).bind fun outcome => ?_
    split
    · exact .pure _
    · split
      · exact .pure _
      · exact (apart_saveInstances _ _).bind fun _ => .pure _

theorem apart_ask (stage : Stage) (ending : Ending) : SessionM.Apart (ask stage ending) := by
  refine SessionM.Apart.get.bind fun session => ?_
  split
  · exact .pure _
  · split
    · exact (apart_keepFlight _ _).bind fun _ => .pure _
    · exact (apart_finishTask _ _).bind fun _ => .pure _

/-! ## Values -/

variable {context : ContextId} {names : List String} {outer : List Closure}

/-- A kept value can be used where it was kept, and a handle everywhere. -/
theorem keeps_keepTerm {name : String} {term : Term}
    (valid : term.ValidIn scheme.rule start context)
    (roams : scheme.rule.strict = true → scheme.shared name → term.Roams)
    (fresh : scheme.rule.strict = true → ¬ scheme.shared name → name ∉ Closure.namesOf outer) :
    Keeps scheme start (⟨context, names⟩ :: outer) (keepTerm name term)
      (⟨context, name :: names⟩ :: outer) (fun _ _ => True) := by
  rintro session rfl sound
  have anywhere : (scheme.rule.strict = true → scheme.shared name) →
      ∀ other, term.ValidIn scheme.rule session.recording other := by
    intro shared other
    by_cases strict : scheme.rule.strict = true
    · exact valid.roam (roams strict (shared strict)) other
    · exact valid.anywhere (Bool.eq_false_iff.mpr strict) other
  have kept : term.KeptAs scheme (⟨context, name :: names⟩ :: outer) session.recording name := by
    refine ⟨fun lax => anywhere (by simp [lax]), fun shared =>
      ⟨fun strict => roams strict shared, anywhere fun _ => shared⟩, fun closure mem named => ?_⟩
    rcases List.mem_cons.mp mem with rfl | mem
    · exact valid
    · -- an enclosing closure has the name only if it is one of handles
      refine anywhere (fun strict => Classical.not_not.mp fun unshared => ?_) _
      exact fresh strict unshared (List.mem_flatMap.mpr ⟨closure, mem, named⟩)
  refine ⟨⟨sound.recording, fun other term' found => ?_, sound.stages, sound.connections⟩, .refl _,
    trivial⟩
  change (session.terms.put name term).get? other = some term' at found
  by_cases same : other = name
  · subst same
    rw [Names.get?_put_self] at found
    cases found
    exact kept
  · rw [Names.get?_put_of_ne same] at found
    refine (sound.terms other term' found).within fun closure mem named => ?_
    rcases List.mem_cons.mp mem with rfl | mem
    · refine ⟨⟨context, names⟩, List.mem_cons_self .., rfl, ?_⟩
      exact (List.mem_cons.mp named).resolve_left same
    · exact ⟨closure, List.mem_cons_of_mem _ mem, rfl, named⟩

/-- A value that is not moved when it is used stays kept. -/
theorem takeTerm_of_get? {session : Session} {name : String} {term : Term}
    (held : session.terms.get? name = some term) (stays : term.isMoved = false) :
    takeTerm name session = (term, session) := by
  unfold takeTerm
  simp only [modifyGetThe, MonadStateOf.modifyGet, StateT.modifyGet, held, stays]
  rfl

/-- What is taken under a name of the closure, or under a name for handles, is valid there. -/
theorem keeps_takeTerm {name : String}
    (known : scheme.rule.strict = true → scheme.shared name ∨ name ∈ names) :
    Keeps scheme start (⟨context, names⟩ :: outer) (takeTerm name) (⟨context, names⟩ :: outer)
      (fun recording term => term.ValidIn scheme.rule recording context ∧
        (scheme.rule.strict = true → scheme.shared name → term.Roams)) := by
  rintro session rfl sound
  have holds : ∀ term, session.terms.get? name = some term →
      term.ValidIn scheme.rule session.recording context ∧
        (scheme.rule.strict = true → scheme.shared name → term.Roams) := by
    intro term found
    have kept := sound.terms name term found
    refine ⟨?_, fun strict shared => (kept.shared shared).1 strict⟩
    -- a name that is not shared is only taken in the closure that kept a value under it
    by_cases strict : scheme.rule.strict = true
    · rcases known strict with shared | named
      · exact (kept.shared shared).2 context
      · exact kept.closures ⟨context, names⟩ (List.mem_cons_self ..) named
    · exact kept.lax (Bool.eq_false_iff.mpr strict) context
  change Session.Sound scheme _ (takeTerm name session).2 ∧ _
  unfold takeTerm
  simp only [modifyGetThe, MonadStateOf.modifyGet, StateT.modifyGet]
  split
  · exact ⟨sound, .refl _, trivial, fun _ _ => trivial⟩
  · next term found =>
      split
      · refine ⟨⟨sound.recording, fun other term' found' => ?_, sound.stages, sound.connections⟩,
          .refl _, holds term found⟩
        change (session.terms.remove name).get? other = some term' at found'
        -- taking a value removes it, and no other one
        by_cases same : other = name
        · subst same
          rw [Names.get?_remove_self] at found'
          cases found'
        · rw [Names.get?_remove_of_ne same] at found'
          exact sound.terms other term' found'
      · exact ⟨sound, .refl _, holds term found⟩

end Session

/-! ## Queries -/

/-- What a program begins with: a new query, or one that was kept. -/
def Beginning.Starts (rule : Rule) (recording : Recording) (stage : Stage) : Beginning → Prop
  | .entity _ name => ∃ query base, stage = .query query ∧ base.name = name ∧
      query.Made rule base [] recording
  | .kept _ => stage.KeptAs rule recording

theorem Beginning.Starts.sound {rule : Rule} {recording : Recording} {stage : Stage}
    {beginning : Beginning} (starts : beginning.Starts rule recording stage) :
    stage.Sound rule recording ∧ stage.Outermost recording := by
  cases beginning with
  | entity connection name =>
      obtain ⟨query, base, rfl, -, made⟩ := starts
      exact ⟨made.sound, made.enclosing⟩
  | kept name => exact ⟨Stage.KeptAs.sound starts, Stage.KeptAs.outermost starts⟩

namespace Session

private theorem name_typeNamed (session : Session) (name : String) :
    (session.typeNamed name).name = name := by
  unfold typeNamed
  cases found : session.types.find? fun type => type.name == name with
  | none => rfl
  | some type => exact eq_of_beq (List.find?_some found :)

theorem keeps_typeOf (name : String) :
    Keeps scheme start stack (typeOf name) stack (fun _ base => base.name = name) :=
  .readSession fun session _ _ => .pure (session.name_typeNamed name)

private theorem get?_of_connectionNamed {session : Session} {name : Option String}
    {connection : Connection} (found : session.connectionNamed name = .ok connection) :
    session.connections.get? (name.getD mainConnection) = some connection := by
  unfold connectionNamed at found
  split at found
  · next connected here =>
      cases found
      exact here
  · cases found

/-- A program begins with a new query, or with one that was kept. -/
theorem keeps_begin (beginning : Beginning) :
    Keeps scheme start stack (begin beginning) stack
      (fun recording outcome => Result.Meets scheme.rule
        (fun stage => beginning.Starts scheme.rule recording stage) outcome) := by
  cases beginning with
  | entity connection name =>
      refine .readSession fun session _ sound => ?_
      split
      · next error failed =>
          refine .pure (Result.meets_error fun _ ⟨_, _, foreign⟩ => ?_)
          unfold connectionNamed at failed
          split at failed
          · cases failed
          · cases failed
            cases foreign
      · next connected found =>
          have database := sound.connections _ connected (get?_of_connectionNamed found)
          exact (Query.keeps_ofConnection database (session.typeNamed name)).map
            fun _ query _ made => Result.meets_ok ⟨query, _, rfl, session.name_typeNamed name, made⟩
  | kept name =>
      rintro session rfl sound
      unfold begin
      simp only [modifyGetThe, MonadStateOf.modifyGet, StateT.modifyGet]
      split
      · refine ⟨sound, .refl _, Result.isTame_fail (by simp), fun _ same => ?_⟩
        cases same
      · next stage found =>
          refine ⟨⟨sound.recording, sound.terms, fun other stage' found' => ?_, sound.connections⟩,
            .refl _, Result.meets_ok (sound.stages name stage found)⟩
          change (session.stages.remove name).get? other = some stage' at found'
          by_cases same : other = name
          · subst same
            rw [Names.get?_remove_self] at found'
            cases found'
          · rw [Names.get?_remove_of_ne same] at found'
            exact sound.stages other stage' found'

end Session

end TrackedQuery
