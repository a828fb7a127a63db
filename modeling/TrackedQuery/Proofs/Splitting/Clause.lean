import TrackedQuery.Example
import TrackedQuery.Proofs.Program.Queried
import TrackedQuery.Proofs.Splitting.Form

/-!
# Splitting a clause

A body of a clause that records may be split: the clause with both parts has the same effect as two
clauses, one for each part (`RecordingClause.evaluateAll_append`).  The clause is one that filters,
sorts or filters groups, and the effect is the query that is built, the state of its joins and
aliases, and the error if there is one.

The second part is run in the recorder that the first part leaves, in the one case, and in a fresh
one in the other.  `Form.runSame` compares the two runs, with the seam at the end of the first part.
From it `recordClause_append` follows for the clause, and the rest is what the two clauses add to
the query.  That the second clause is given the same tables as the first needs a query whose tables
are roots, as all are that a program reaches (`Program.rooted`).  So the last clause of a program
can be split in every session in which programs were run (`Program.splitsInto`).

The names of the second part are the condition under which this holds.  A statement that an earlier
clause kept is used by its slot, which in the recorder of the first part names another statement
than in a fresh one, so a clause that uses it cannot be split.
-/

namespace TrackedQuery

/-! ## One recorder and two -/

private theorem Form.run_append (frames : List Frame) (first second : List Form)
    (session : Session) :
    Form.run frames (first ++ second) session =
      Form.run frames second (Form.run frames first session).2 := by
  induction first generalizing session with
  | nil => rfl
  | cons form rest ih => exact ih _

section Clause

variable {frames : List Frame} {context : ContextId} {sink : Sink} {session : Session}

/-- The clause when its body has run: its sink is the innermost one again. -/
theorem Recording.At.ended {site : Site} {recording : Recording}
    (placed : recording.At site 0 [⟨0, sink⟩]) :
    ∃ recorded next error, recording.recorders =
        ⟨site.context, [⟨0, recorded⟩], next, error⟩ :: site.outer ∧
      recorded.emptied = sink ∧ 0 < next ∧ ∀ noted ∈ site.noted, error = some noted := by
  obtain ⟨⟨_, sinks, next, error⟩, recorders, rfl, shape, begun, noted⟩ := placed.recorder
  obtain ⟨⟨number, recorded⟩, outer, rfl, same, rest⟩ := List.map_eq_cons_iff.mp shape
  cases List.map_eq_nil_iff.mp rest
  cases same
  exact ⟨recorded, next, error, recorders, rfl, begun, noted⟩

/-- A body of a clause, as it is run there. -/
def Form.runIn (frames : List Frame) (context : ContextId) (sink : Sink) (body : List Form)
    (session : Session) : Session :=
  (Form.run frames body
    { session with recording := session.recording.beginClause context sink }).2

private theorem Form.runIn_at (frames : List Frame) (context : ContextId)
    (empty : sink.emptied = sink) (body : List Form) (session : Session) :
    Session.At .still (.begun session context) 0 [⟨0, sink⟩]
      (Form.runIn frames context sink body session) :=
  (Form.runSame .still _ body frames (fun moves => absurd rfl moves) _ _
    (.begun session context empty)).2

/-- The session outside of the clauses that are being recorded, except for the given ones. -/
def Session.outside (session : Session) (outer : List Recorder) : Session :=
  { session with recording := ⟨session.recording.contexts, outer⟩ }

/-- What a clause answers, by the recorder that its body leaves. -/
theorem recordClause_of_left {body : List Form} {after : Session} {recorder : Recorder}
    {outer : List Recorder} (ran : Form.runIn frames context sink body session = after)
    (left : after.recording.recorders = recorder :: outer) :
    recordClause context sink (Form.run frames body) session =
      (recorder.finish.map (Prod.mk ()), after.outside outer) := by
  have same : (Form.run frames body { session with
      recording := session.recording.beginClause context sink }).2 = after := ran
  rw [recordClause_run]
  dsimp only
  rw [same]
  obtain ⟨⟨contexts, _⟩, world⟩ := after
  cases left
  rfl

private theorem Form.runIn_append (first second : List Form) :
    Form.runIn frames context sink (first ++ second) session =
      (Form.run frames second (Form.runIn frames context sink first session)).2 :=
  congrArg Prod.snd (Form.run_append frames first second _)

/-- An error that was noted in a clause is still noted when more has run in it. -/
theorem recordClause_append_error {first second : List Form} {after : Session} {recorded : Sink}
    {next : Nat} {error : Error} (begun : 0 < next)
    (ran : Form.runIn frames context sink first session = after)
    (left : after.recording.recorders =
      ⟨context, [⟨0, recorded⟩], next, some error⟩ :: session.recording.recorders) :
    (recordClause context sink (Form.run frames (first ++ second)) session).1 = .error error := by
  let site : Site := ⟨after.recording, session.recording.recorders, context, some error,
    after.stages⟩
  have placed : Session.At .still site 0 [⟨0, recorded.emptied⟩] after :=
    ⟨⟨⟨_, left, rfl, rfl, begun, by simp [site]⟩, .refl _⟩, by simp [Seam.still], fun _ mem => mem⟩
  obtain ⟨-, ended⟩ :=
    Form.runSame .still site second frames (fun moves => absurd rfl moves) _ _ placed
  obtain ⟨recorded', next', error', left', -, -, noted⟩ := ended.recording.ended
  rw [← ran, ← Form.runIn_append] at left'
  rw [recordClause_of_left rfl left', noted error rfl]
  rfl

/-- What was kept before leaves no slot under the names of the body behind a seam. -/
def Naming.Fresh (naming : Naming) (terms : Names Term) : Prop :=
  ∀ entry ∈ terms, entry.1 ∈ naming.own ++ naming.plain → entry.2.slot? = none

private theorem Seam.terms_of_fresh (seam : Seam) {terms : Names Term}
    (fresh : seam.naming.Fresh terms) :
    seam.terms terms = terms := by
  refine (List.map_congr_left fun entry mem => ?_).trans (List.map_id terms)
  refine congrArg (Prod.mk entry.1) ?_
  unfold Seam.kept
  split
  · next own => exact Term.moved_of_slot?_eq_none (fresh entry mem (List.mem_append_left _ own)) _
  · rfl

/-- The clause of the second part, as seen from before the seam, goes on where the first part
ended. -/
theorem Seam.session_begun (seam : Seam) {recorded : Sink} {next : Nat} {after : Session}
    {outer : List Recorder} (before : seam.before = recorded) (opened : seam.opened + 1 = next)
    (ran : after.recording.recorders = ⟨context, [⟨0, recorded⟩], next, none⟩ :: outer)
    (fresh : seam.naming.Fresh after.terms) :
    seam.session 0 { after with
      recording := ⟨after.recording.contexts, .start context recorded.emptied :: outer⟩ } =
        after := by
  have recorder : seam.recorder (.start context recorded.emptied) =
      ⟨context, [⟨0, recorded⟩], next, none⟩ := by
    show Recorder.mk context [⟨0, seam.before.followedBy recorded.emptied⟩] (1 + seam.opened) none =
      _
    rw [before, Sink.followedBy_emptied, Nat.add_comm, opened]
  have recording : seam.recording 0
      ⟨after.recording.contexts, .start context recorded.emptied :: outer⟩ = after.recording := by
    show Recording.mk after.recording.contexts (seam.recorder _ :: outer) = _
    rw [recorder, ← ran]
  show { after with recording := seam.recording 0 _, terms := seam.terms after.terms } = after
  rw [recording, seam.terms_of_fresh fresh]

/-- A clause with both parts of a body records what a clause with the first part has recorded, and
then what a clause with the second part does. -/
theorem recordClause_append {frames : List Frame} {first second : List Form} {naming : Naming}
    {after : Session} {recorded : Sink} {next : Nat} (begun : 0 < next)
    (ran : Form.runIn frames context recorded.emptied first session = after)
    (left : after.recording.recorders =
      ⟨context, [⟨0, recorded⟩], next, none⟩ :: session.recording.recorders)
    (fresh : naming.Fresh after.terms) (minds : Form.AllMind naming false second) :
    let rest := recordClause context recorded.emptied (Form.run frames second)
      (after.outside session.recording.recorders)
    (∃ seam : Seam, seam.naming = naming ∧
      recordClause context recorded.emptied (Form.run frames (first ++ second)) session =
        (rest.1.map fun outcome => (outcome.1, recorded.followedBy outcome.2),
          { rest.2 with terms := seam.terms rest.2.terms })) ∧
      ∀ outcome, rest.1 = .ok outcome → outcome.2.emptied = recorded.emptied := by
  let seam : Seam := ⟨recorded, next - 1, naming⟩
  -- the first part alone, with its recorder taken off, is where the second part begins
  let middle : Session := after.outside session.recording.recorders
  have opened : seam.session 0 { middle with
      recording := middle.recording.beginClause context recorded.emptied } = after :=
    seam.session_begun rfl (Nat.sub_add_cancel begun) left fresh
  have placed : Session.At seam (.begun middle context) 0 [⟨0, recorded.emptied⟩] { middle with
      recording := middle.recording.beginClause context recorded.emptied } := by
    refine ⟨.begun middle context (Sink.emptied_emptied recorded),
      fun name mem term found => ?_, fun _ mem => mem⟩
    exact fresh (name, term) (Names.mem_of_get? found) (List.mem_append_right _ mem)
  have in_step : Same seam (.begun middle context) 0 (Form.run frames second) :=
    Form.runSame seam _ second frames fun _ => minds
  obtain ⟨same, ended⟩ := in_step _ _ placed
  rw [opened] at same
  obtain ⟨recorded', next', error', recorders, alike, -⟩ := ended.recording.ended
  have whole_ran : Form.runIn frames context recorded.emptied (first ++ second) session =
      seam.session 0 (Form.runIn frames context recorded.emptied second middle) := by
    rw [Form.runIn_append, ran, same]
    rfl
  have whole_left : (seam.session 0 (Form.runIn frames context recorded.emptied second
      middle)).recording.recorders = _ := congrArg (List.modify · 0 seam.recorder) recorders
  rw [recordClause_of_left whole_ran whole_left, recordClause_of_left rfl recorders]
  cases error' with
  | none =>
      refine ⟨⟨seam, rfl, rfl⟩, fun outcome finished => ?_⟩
      cases finished
      exact alike
  | some error =>
      refine ⟨⟨seam, rfl, rfl⟩, fun outcome finished => ?_⟩
      cases finished

end Clause

/-! ## Clauses of queries -/

section Steps

variable {frames : List Frame} {stage : Stage} {step : Step} {session : Session}

theorem Step.evaluateAll_nil (position : Nat) :
    Step.evaluateAll frames position stage [] session = (.ok stage, session) := rfl

theorem Step.evaluateAll_cons_of_error {error : Error} {after : Session}
    (failed : step.evaluate frames stage session = (.error error, after)) (position : Nat)
    (rest : List Step) :
    Step.evaluateAll frames position stage (step :: rest) session =
      (.error ⟨position, error⟩, after) := by
  rw [Step.evaluateAll, SessionM.bind_apply, failed]
  rfl

theorem Step.evaluateAll_cons_of_ok {next : Stage} {after : Session}
    (answered : step.evaluate frames stage session = (.ok next, after)) (position : Nat)
    (rest : List Step) :
    Step.evaluateAll frames position stage (step :: rest) session =
      Step.evaluateAll frames (position + 1) next rest after := by
  rw [Step.evaluateAll, SessionM.bind_apply, answered]

end Steps

/-- The runs of a whole and of its parts.  They answer the same query or the same error; if they
succeed, then they leave the same session up to the slots of the handles that are kept under the own
names of the naming, and whatever is asked of the query is answered the same. -/
def SplitsInto (naming : Naming) (whole parts : Except StepFailure Stage × Session) : Prop :=
  StepFailure.forget whole.1 = StepFailure.forget parts.1 ∧
    ∀ next, parts.1 = .ok next →
      (∃ seam : Seam, seam.naming = naming ∧
        whole.2 = { parts.2 with terms := seam.terms parts.2.terms }) ∧
      ∀ question, next.request whole.2 question = next.request parts.2 question

/-- A clause whose body records. -/
inductive RecordingClause where
  | filterBy
  | orderBy
  | having

namespace RecordingClause

/-- The step that adds the clause. -/
def step : RecordingClause → List Form → Step
  | .filterBy => .filterBy
  | .orderBy => .orderBy
  | .having => .having

/-- The sink that the clause begins with. -/
def sink : RecordingClause → Sink
  | .filterBy | .having => .predicates []
  | .orderBy => .order []

/-- The query whose clause it is, and the keys that the body may use; nothing if the clause does not
suit the stage. -/
def subject? : RecordingClause → Stage → Option (Query × Option (List Item))
  | .filterBy, .query built | .orderBy, .query built => some (built, none)
  | .orderBy, .grouped built | .having, .grouped built => some (built.query, some built.keys)
  | _, _ => none

/-- The query with what was recorded for the clause. -/
def add (recorded : Sink) : RecordingClause → Stage → Stage
  | .filterBy, .query built =>
      .query { built with
        clauses := { built.clauses with filter := built.clauses.filter ++ recorded.statements } }
  | .orderBy, .query built =>
      .query { built with
        clauses := { built.clauses with orderBy := built.clauses.orderBy ++ recorded.sortKeys } }
  | .orderBy, .grouped built =>
      .grouped { built with
        query := { built.query with
          clauses := { built.query.clauses with
            orderBy := built.query.clauses.orderBy ++ recorded.sortKeys } } }
  | .having, .grouped built =>
      .grouped { built with conditions := built.conditions ++ recorded.statements }
  | _, stage => stage

variable (clause : RecordingClause) {stage : Stage} {query : Query} {keys : Option (List Item)}
  {session : Session}

private theorem emptied_sink : clause.sink.emptied = clause.sink := by
  cases clause <;> rfl

/-- A clause that does not suit the stage changes nothing. -/
theorem evaluate_of_none (unsuited : clause.subject? stage = none) (frames : List Frame)
    (body : List Form) (session : Session) :
    (clause.step body).evaluate frames stage session = (.ok stage, session) := by
  cases clause <;> cases stage <;> first | rfl | cases unsuited

/-- A clause that suits the stage adds what its body records. -/
theorem evaluate_of_some (suited : clause.subject? stage = some (query, keys))
    (frames : List Frame) (body : List Form) (session : Session) :
    (clause.step body).evaluate frames stage session =
      ((recordClause query.context clause.sink
          (Form.run (⟨query.handlesIn session.recording, keys⟩ :: frames) body) session).1.map
          fun outcome => clause.add outcome.2 stage,
        (recordClause query.context clause.sink
          (Form.run (⟨query.handlesIn session.recording, keys⟩ :: frames) body) session).2) := by
  have mapped : ∀ {α β γ : Type} (outcome : Result α) (inner : α → β) (outer : β → γ),
      (outcome.map inner).map outer = outcome.map fun value => outer (inner value) := by
    intro α β γ outcome inner outer
    cases outcome <;> rfl
  cases clause <;> cases stage <;> cases suited
  · exact Prod.ext (mapped _ _ _) rfl
  · exact Prod.ext (mapped _ _ _) rfl
  · exact Prod.ext ((congrArg _ (mapped _ _ _)).trans (mapped _ _ _)) rfl
  · exact Prod.ext (mapped _ _ _) rfl

private theorem subject?_add (recorded : Sink)
    (suited : clause.subject? stage = some (query, keys)) :
    ∃ refined, clause.subject? (clause.add recorded stage) = some (refined, keys) ∧
      refined.context = query.context ∧
      ∀ recording, refined.handlesIn recording = query.handlesIn recording := by
  cases clause <;> cases stage <;> cases suited <;> exact ⟨_, rfl, rfl, fun _ => rfl⟩

private theorem add_add {recorded later : Sink} (alike : recorded.emptied = later.emptied)
    (stage : Stage) :
    clause.add later (clause.add recorded stage) =
      clause.add (recorded.followedBy later) stage := by
  cases clause <;> cases stage <;>
    simp only [add, Sink.statements_followedBy alike, Sink.sortKeys_followedBy alike,
      List.append_assoc]

private theorem map_add_add {recorded : Sink} {outcome : Result (Unit × Sink)} (stage : Stage)
    (alike : ∀ later, outcome = .ok later → recorded.emptied = later.2.emptied) :
    (outcome.map fun later => (later.1, recorded.followedBy later.2)).map
        (fun later => clause.add later.2 stage) =
      outcome.map fun later => clause.add later.2 (clause.add recorded stage) := by
  cases outcome with
  | error error => rfl
  | ok later => exact congrArg Except.ok (clause.add_add (alike later rfl) stage).symm

private theorem rooted_of_subject? {recording : Recording} (rooted : stage.Rooted recording)
    (suited : clause.subject? stage = some (query, keys)) : query.Rooted recording := by
  cases clause <;> cases stage <;> cases suited <;> exact rooted

/-- The clause of the second part, after that of the first. -/
theorem evaluate_append_of_left (suited : clause.subject? stage = some (query, keys))
    (rooted : stage.Rooted session.recording) {frames : List Frame} {naming : Naming}
    {first second : List Form} {after : Session} {recorded : Sink} {next : Nat} (begun : 0 < next)
    (ran : Form.runIn (⟨query.handlesIn session.recording, keys⟩ :: frames) query.context
      clause.sink first session = after)
    (left : after.recording.recorders =
      ⟨query.context, [⟨0, recorded⟩], next, none⟩ :: session.recording.recorders)
    (alike : recorded.emptied = clause.sink)
    (grows : session.recording.Grows after.recording)
    (fresh : naming.Fresh after.terms) (minds : Form.AllMind naming false second) :
    let rest := (clause.step second).evaluate frames (clause.add recorded stage)
      (after.outside session.recording.recorders)
    ((clause.step (first ++ second)).evaluate frames stage session).1 = rest.1 ∧
      ∃ seam : Seam, seam.naming = naming ∧
        ((clause.step (first ++ second)).evaluate frames stage session).2 =
          { rest.2 with terms := seam.terms rest.2.terms } := by
  obtain ⟨refined, suited', same_context, same_handles⟩ := clause.subject?_add recorded suited
  have handles : query.handlesIn (after.outside session.recording.recorders).recording =
      query.handlesIn session.recording :=
    (clause.rooted_of_subject? rooted suited).handlesIn_eq
      (grows.trans (.of_contexts_eq rfl))
  rw [← alike] at ran
  obtain ⟨⟨seam, named, appended⟩, later_alike⟩ :=
    recordClause_append begun ran left fresh minds
  rw [alike] at appended later_alike
  rw [clause.evaluate_of_some suited, clause.evaluate_of_some suited', same_context,
    same_handles, handles, appended]
  refine ⟨clause.map_add_add stage fun outcome answered => ?_, seam, named, rfl⟩
  exact alike.trans (later_alike outcome answered).symm

/-- If the first part fails, then so does the whole; else the whole is the second part, in a clause
of its own after the first. -/
theorem evaluate_append (frames : List Frame) {naming : Naming} {first second : List Form}
    (rooted : stage.Rooted session.recording)
    (fresh : naming.Fresh ((clause.step first).evaluate frames stage session).2.terms)
    (minds : Form.AllMind naming false second) :
    let whole := (clause.step (first ++ second)).evaluate frames stage session
    let part := (clause.step first).evaluate frames stage session
    (∀ error, part.1 = .error error → whole.1 = .error error) ∧
      ∀ middle, part.1 = .ok middle →
        let rest := (clause.step second).evaluate frames middle part.2
        whole.1 = rest.1 ∧ ∃ seam : Seam, seam.naming = naming ∧
          whole.2 = { rest.2 with terms := seam.terms rest.2.terms } := by
  cases suited : clause.subject? stage with
  | none =>
      simp only [clause.evaluate_of_none suited] at fresh ⊢
      refine ⟨fun _ failed => failed, fun middle same => ?_⟩
      cases same
      refine ⟨congrArg Prod.fst (clause.evaluate_of_none suited ..).symm, ⟨.values, 0, naming⟩,
        rfl, ?_⟩
      rw [clause.evaluate_of_none suited, Seam.terms_of_fresh _ fresh]
  | some subject =>
      obtain ⟨query, keys⟩ := subject
      let inner : List Frame := ⟨query.handlesIn session.recording, keys⟩ :: frames
      -- the recorder of the clause when the first part has run
      have placed := Form.runIn_at inner query.context clause.emptied_sink first session
      generalize ran : Form.runIn inner query.context clause.sink first session = after at placed
      obtain ⟨recorded, next, error, left, alike, begun, -⟩ := placed.recording.ended
      have part := clause.evaluate_of_some suited frames first session
      rw [recordClause_of_left ran left] at part
      rw [part] at fresh
      rw [part]
      cases error with
      | some error =>
          refine ⟨fun failure same => ?_, fun middle same => ?_⟩
          · cases same
            rw [clause.evaluate_of_some suited]
            exact congrArg (Except.map _) (recordClause_append_error begun ran left)
          · cases same
      | none =>
          refine ⟨fun failure same => ?_, fun middle same => ?_⟩
          · cases same
          · cases same
            exact clause.evaluate_append_of_left suited rooted begun ran left alike
              placed.recording.grows fresh minds

/-- The step of the whole body and the steps of its parts. -/
theorem splitsInto (frames : List Frame) (position : Nat) {naming : Naming}
    {first second : List Form} (rooted : stage.Rooted session.recording)
    (fresh : naming.Fresh ((clause.step first).evaluate frames stage session).2.terms)
    (minds : Form.AllMind naming false second) :
    SplitsInto naming
      (Step.evaluateAll frames position stage [clause.step (first ++ second)] session)
      (Step.evaluateAll frames position stage [clause.step first, clause.step second] session) := by
  obtain ⟨failed, continued⟩ := clause.evaluate_append frames rooted fresh minds
  generalize together : (clause.step (first ++ second)).evaluate frames stage session = whole
    at failed continued
  generalize apart : (clause.step first).evaluate frames stage session = part at failed continued
  obtain ⟨outcome, ended⟩ := whole
  obtain ⟨middle, after⟩ := part
  cases middle with
  | error error =>
      cases failed error rfl
      rw [Step.evaluateAll_cons_of_error together, Step.evaluateAll_cons_of_error apart]
      exact ⟨rfl, fun next same => nomatch same⟩
  | ok middle =>
      obtain ⟨same, seam, named, same_session⟩ := continued middle rfl
      rw [Step.evaluateAll_cons_of_ok apart]
      generalize rest : (clause.step second).evaluate frames middle after = final
        at same same_session
      obtain ⟨_, final⟩ := final
      cases same
      cases same_session
      cases outcome with
      | error error =>
          rw [Step.evaluateAll_cons_of_error together, Step.evaluateAll_cons_of_error rest]
          exact ⟨rfl, fun next same => nomatch same⟩
      | ok next =>
          rw [Step.evaluateAll_cons_of_ok together, Step.evaluateAll_cons_of_ok rest,
            Step.evaluateAll_nil, Step.evaluateAll_nil]
          refine ⟨rfl, fun last same => ?_⟩
          cases same
          exact ⟨⟨seam, named, rfl⟩, fun question => by cases next <;> rfl⟩

/-- A clause can be split.  The clause with both parts of a body and the two clauses with one part
each answer the same query or the same error.  If they succeed, then they leave the same session,
with the same joins and aliases, up to the slots of the second part's own handles; whatever is asked
of the query is answered the same.

The second part uses predicates under its own names only, at its own level, and nothing was kept
under these before. -/
theorem evaluateAll_append (frames : List Frame) (position : Nat) {naming : Naming}
    {first second : List Form} (rooted : stage.Rooted session.recording)
    (fresh : naming.Fresh ((clause.step first).evaluate frames stage session).2.terms)
    (minds : Form.AllMind naming false second) :
    let whole := Step.evaluateAll frames position stage [clause.step (first ++ second)] session
    let parts :=
      Step.evaluateAll frames position stage [clause.step first, clause.step second] session
    StepFailure.forget whole.1 = StepFailure.forget parts.1 ∧
      ∀ next, parts.1 = .ok next →
        (∃ seam : Seam, seam.naming = naming ∧
          whole.2 = { parts.2 with terms := seam.terms parts.2.terms }) ∧
        ∀ question, next.request whole.2 question = next.request parts.2 question :=
  clause.splitsInto frames position rooted fresh minds

end RecordingClause

/-! ## An example -/

namespace Example

/-- A query over blogs, and the session in which it was begun. -/
def blogsBegun : Query × Session :=
  (Query.ofConnection connection (.ofEntity "Blog" blog) : SessionM Query)
    (Session.start connection types)

/-- The statement that a form is equal to a text. -/
def equals (form : Form) (text : String) : Form := .compare .eq form (.literal (.string text))

/-- Statements about a blog and its topic.  The table of the topic is kept, and a statement. -/
def titlePart : List Form :=
  [.keep "topic" (.navigate (.table 0 0) "topic" "Topic"),
    .keep "titled" (equals (.column (.table 0 0) "title" .string) "Lean"),
    equals (.column (.kept "topic") "title" .string) "Proofs"]

/-- Statements that use the table of the topic, a statement of their own, and a nested query. -/
def commentPart : List Form :=
  [.keep "empty" (equals (.column (.table 0 0) "content" .string) ""),
    .not (.kept "empty"),
    equals (.column (.kept "topic") "id" .string) "t",
    .anyRow (.table 0 0) "Comment"
      [.filterBy [.compare .eq (.column (.table 0 0) "blog_id" .string)
        (.column (.table 0 1) "id" .string)]]
      false]

/-- The names of `commentPart`. -/
def commentNaming : Naming := ⟨["empty"], ["topic"]⟩

private theorem blogsBegun_rooted : Stage.Rooted blogsBegun.2.recording (.query blogsBegun.1) := by
  have begun : Keeps .free .empty [] (Query.ofConnection connection (.ofEntity "Blog" blog)) [] _ :=
    Query.keeps_ofConnection trivial (.ofEntity "Blog" blog)
  obtain ⟨sound, -, made⟩ :=
    begun (Session.start connection types) rfl (Session.sound_start types trivial)
  exact made.sound.rooted sound.recording.contexts

private theorem commentPart_fresh :
    commentNaming.Fresh ((RecordingClause.filterBy.step titlePart).evaluate
    [] (.query blogsBegun.1) blogsBegun.2).2.terms := by
  unfold Naming.Fresh
  decide +kernel

private theorem commentPart_minds : Form.AllMind commentNaming false commentPart := by
  simp [commentPart, equals, commentNaming, Form.AllMind, Form.Minds, Step.AllMind, Step.Minds,
    Naming.Admits]

/-- The two parts can be split, and both ways succeed. -/
theorem evaluateAll_append_blogs :
    let whole := Step.evaluateAll [] 0 (.query blogsBegun.1)
      [.filterBy (titlePart ++ commentPart)] blogsBegun.2
    let parts := Step.evaluateAll [] 0 (.query blogsBegun.1)
      [.filterBy titlePart, .filterBy commentPart] blogsBegun.2
    (StepFailure.forget parts.1).isOk = true ∧
      StepFailure.forget whole.1 = StepFailure.forget parts.1 ∧
      ∀ next, parts.1 = .ok next → ∃ seam : Seam, seam.naming = commentNaming ∧
        whole.2 = { parts.2 with terms := seam.terms parts.2.terms } := by
  have split := RecordingClause.filterBy.evaluateAll_append [] 0 blogsBegun_rooted
    commentPart_fresh commentPart_minds
  simp only [RecordingClause.step] at split
  exact ⟨by decide +kernel, split.1, fun next answered => (split.2 next answered).1⟩

/-- How many statements the query of a program over blogs has. -/
def statementCount (steps : List Step) : Option Nat :=
  match (Program.evaluate [] ⟨.entity none "Blog", steps⟩ (Session.start connection types)).1 with
  | .ok (.query built) => some built.clauses.filter.length
  | _ => none

/-- A clause cannot be split before the use of a statement that an earlier clause kept: in the whole
the other statement of the clause is lost. -/
example :
    let kept : Form := .keep "untitled" (.isNull (.column (.table 0 0) "title" .string) false)
    let first : Form := .isNull (.column (.table 0 0) "id" .string) true
    let second : Form := .compare .eq (.literal (.bool true)) (.kept "untitled")
    statementCount [.filterBy [kept], .filterBy [first, second]] = some 2 ∧
      statementCount [.filterBy [kept], .filterBy [first], .filterBy [second]] = some 3 := by
  decide +kernel

end Example

end TrackedQuery
