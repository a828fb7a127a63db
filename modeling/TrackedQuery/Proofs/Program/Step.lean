import TrackedQuery.Proofs.Program.Form
import TrackedQuery.Proofs.Program.Text

/-!
# Steps that keep sessions sound

A step takes a sound query to a sound one in the same context, with the setting that the step makes
(`Stage.Follows`), provided that the parts of its closure keep sessions sound.  A step that does not
suit the stage of the query changes nothing.

There is one lemma for each kind of step, by the stage that the query is in.  The body of a closure
is run in a closure of its own (`Form.RunKept.clause`, `Form.AllKept.items`), and what the clause
makes of it is known from the clauses of queries.  The steps that take another query run its program
first, and need of it what `Program.EndsWith` says: it is nested in no other query, so its plan may
be placed anywhere.
-/

namespace TrackedQuery

variable {scheme : Scheme}

/-- What a step answers: a sound query in the given context and with the given setting. -/
abbrev Stage.Follows (rule : Rule) (context : ContextId) (setting : Setting) (recording : Recording)
    (outcome : Result Stage) : Prop :=
  Result.Meets rule (Stage.SoundAs rule context setting recording) outcome

/-- A step keeps sessions sound wherever its closure keeps to itself. -/
def Step.Kept (scheme : Scheme) (step : Step) : Prop :=
  ∀ {stack : List Closure} {frames : List Frame} {start : Recording} {stage : Stage},
    step.Fits scheme (Closure.namesOf stack) → Frame.TablesExist start frames →
    stage.Sound scheme.rule start →
    Keeps scheme start stack (step.evaluate frames stage) stack
      (Stage.Follows scheme.rule stage.context (step.settle stage.setting))

/-- Steps that are taken in turn keep sessions sound wherever their closures keep to themselves. -/
def Step.AllKept (scheme : Scheme) (steps : List Step) : Prop :=
  ∀ {stack : List Closure} {frames : List Frame} {start : Recording} {stage : Stage}
    (position : Nat), Step.AllFit scheme (Closure.namesOf stack) steps →
    Frame.TablesExist start frames → stage.Sound scheme.rule start →
    Keeps scheme start stack (Step.evaluateAll frames position stage steps) stack
      (fun recording outcome => Stage.Follows scheme.rule stage.context
        (steps.foldl Step.settle stage.setting) recording (StepFailure.forget outcome))

/-- What is known of the query that a program ends with: it is sound, nested in no other one, and
the one that the program writes down, and its plan is as the rule asks of plans. -/
structure Program.EndsWith (rule : Rule) (program : Program) (recording : Recording)
    (stage : Stage) : Prop where
  sound : stage.Sound rule recording
  outermost : stage.Outermost recording
  admitted : stage.Admitted rule recording
  reached : ∀ text ∈ program.text?, text.Reaches rule recording stage

/-- A program keeps sessions sound wherever its closures keep to themselves. -/
def Program.Kept (scheme : Scheme) (program : Program) : Prop :=
  ∀ {stack : List Closure} {frames : List Frame} {start : Recording},
    program.Fits scheme (Closure.namesOf stack) → Frame.TablesExist start frames →
    Keeps scheme start stack (program.evaluate frames) stack
      (fun recording outcome => Result.Meets scheme.rule (program.EndsWith scheme.rule recording)
        (StepFailure.forget outcome))

/-! ## Bodies -/

section Bodies

variable {context : ContextId} {stack : List Closure} {frames : List Frame} {start : Recording}
  {body : List Form} {keys : Option (List Item)}

/-- A body that records keeps the closure of its clause. -/
theorem Form.RunKept.clause (kept : Form.RunKept scheme body)
    (fits : Form.AllFit scheme (Closure.namesOf stack) [] body)
    (exist : Frame.TablesExist start frames)
    (keys_valid : ∀ items ∈ keys, Item.ValidIn scheme.rule start context items) :
    ClauseKept scheme start stack context
      (fun tables => Form.run (⟨tables, keys⟩ :: frames) body) (fun _ _ => True) := by
  intro recording tables grows valid
  have frame := (exist.mono grows).push valid fun items mem => (keys_valid items mem).mono grows
  exact (kept fits frame).forget

/-- The items that a body answers are valid in the closure of its clause. -/
theorem Form.AllKept.items (kept : Form.AllKept scheme body)
    (fits : Form.AllFit scheme (Closure.namesOf stack) [] body)
    (exist : Frame.TablesExist start frames)
    (keys_valid : ∀ items ∈ keys, Item.ValidIn scheme.rule start context items) :
    ClauseKept scheme start stack context
      (fun tables => Form.evaluateAll (⟨tables, keys⟩ :: frames) body >>= Term.toItemsAll)
      (fun recording items => Item.ValidIn scheme.rule recording context items) := by
  intro recording tables grows valid
  have frame := (exist.mono grows).push valid fun items mem => (keys_valid items mem).mono grows
  refine (kept fits frame).forget.bind ?_
  intro later terms _ terms_valid
  exact Term.keeps_toItemsAll terms_valid

/-- A clause that is not one of a grouped query has no keys. -/
theorem Item.validIn_noKeys {rule : Rule} (context : ContextId) :
    ∀ items ∈ (none : Option (List Item)), Item.ValidIn rule start context items := nofun

/-- The keys of a grouped query are valid in its clauses. -/
theorem GroupedQuery.Valid.ownKeys {rule : Rule} {built : GroupedQuery}
    (valid : built.Valid rule start) :
    ∀ items ∈ some built.keys, Item.ValidIn rule start built.query.context items := by
  intro items mem
  cases mem
  exact valid.keys

end Bodies

/-! ## Stages -/

section Stages

variable {rule : Rule} {start : Recording} {stack : List Closure} {stage : Stage}

/-- A step that does not suit the stage. -/
theorem Stage.keeps_unchanged (sound : stage.Sound scheme.rule start) :
    Keeps scheme start stack (pure (.ok stage)) stack
      (Stage.Follows scheme.rule stage.context stage.setting) :=
  .pure (Result.meets_ok ⟨sound, rfl, rfl⟩)

/-- What a clause answers is what its step answers. -/
theorem Result.Leads.follows {α : Type} {toStage : α → Stage} {context : ContextId}
    {setting : Setting} {outcome : Result α}
    (leads : outcome.Leads rule toStage context setting start) :
    Stage.Follows rule context setting start (outcome.map toStage) :=
  Result.Meets.map leads fun _ sound => sound

theorem Stage.meets_toQuery {outcome : Result Stage} {condition : Stage → Prop}
    (meets : outcome.Meets rule condition) :
    Result.Meets rule (fun built => condition (.query built)) (outcome.bind Stage.toQuery) := by
  refine Result.Meets.bind meets fun stage holds => ?_
  cases stage with
  | query built => exact Result.meets_ok holds
  | grouped | projected =>
      refine ⟨Result.isTame_fail (by simp), fun _ same => ?_⟩
      cases same

theorem Stage.meets_toProjected {outcome : Result Stage} {condition : Stage → Prop}
    (meets : outcome.Meets rule condition) :
    Result.Meets rule (fun built => condition (.projected built))
      (outcome.bind Stage.toProjected) := by
  refine Result.Meets.bind meets fun stage holds => ?_
  cases stage with
  | projected built => exact Result.meets_ok holds
  | query | grouped =>
      refine ⟨Result.isTame_fail (by simp), fun _ same => ?_⟩
      cases same

/-- A step that changes clauses of which no rule asks anything. -/
theorem Stage.keeps_setQuery {built : Query} (sound : built.Sound scheme.rule start)
    {clauses : Clauses} (filter : clauses.filter = built.clauses.filter)
    (orderBy : clauses.orderBy = built.clauses.orderBy)
    (arms : clauses.arms = built.clauses.arms) :
    Keeps scheme start stack (pure (.ok (.query { built with clauses := clauses }))) stack
      (Stage.Follows scheme.rule built.context ⟨true, clauses.logicalDelete⟩) :=
  have valid : built.Valid scheme.rule start := sound.valid
  .pure (Result.meets_ok ⟨⟨valid.setClauses filter orderBy arms, sound.roots⟩, rfl, rfl⟩)

private theorem Stage.keeps_setProjected {built : ProjectedQuery}
    (valid : built.Valid scheme.rule start) {clauses : Clauses}
    (filter : clauses.filter = built.clauses.filter)
    (orderBy : clauses.orderBy = built.clauses.orderBy) (arms : clauses.arms = built.clauses.arms) :
    Keeps scheme start stack (pure (.ok (.projected { built with clauses := clauses }))) stack
      (Stage.Follows scheme.rule built.context ⟨false, clauses.logicalDelete⟩) :=
  .pure (Result.meets_ok ⟨(valid.setClauses filter orderBy arms).sound, rfl, rfl⟩)

end Stages

namespace Step.Kept

variable {body : List Form}

/-! ## Filters and orderings -/

theorem filterBy (kept : Form.RunKept scheme body) : (Step.filterBy body).Kept scheme := by
  intro stack frames start stage fits exist sound
  cases stage with
  | query built =>
      have clause := kept.clause fits exist (Item.validIn_noKeys built.context)
      exact (Query.keeps_filterBy sound clause).map fun _ _ _ refines => refines.follows
  | grouped | projected => exact Stage.keeps_unchanged sound

theorem filterByIf (condition : Bool) (kept : Form.RunKept scheme body) :
    (Step.filterByIf condition body).Kept scheme := by
  intro stack frames start stage fits exist sound
  cases stage with
  | query built =>
      cases condition with
      | true => exact filterBy kept (fits rfl) exist sound
      | false => exact Stage.keeps_unchanged sound
  | grouped | projected => exact Stage.keeps_unchanged sound

theorem filterByKey (id : Value) : (Step.filterByKey id).Kept scheme := by
  intro stack frames start stage fits exist sound
  cases stage with
  | query built =>
      exact (Query.keeps_filterByKey sound id).map fun _ _ _ refines => refines.follows
  | grouped | projected => exact Stage.keeps_unchanged sound

theorem orderBy (kept : Form.RunKept scheme body) : (Step.orderBy body).Kept scheme := by
  intro stack frames start stage fits exist sound
  cases stage with
  | query built =>
      have clause := kept.clause fits exist (Item.validIn_noKeys built.context)
      exact (Query.keeps_orderBy sound clause).map fun _ _ _ refines => refines.follows
  | grouped built =>
      have clause := kept.clause fits exist (GroupedQuery.Valid.ownKeys sound.valid)
      exact (GroupedQuery.keeps_orderBy sound clause).map fun _ _ _ made => made.follows
  | projected => exact Stage.keeps_unchanged sound

/-! ## Joins and set operations -/

theorem join (kind : JoinKind) (entity : String) (kept : Form.RunKept scheme body) :
    (Step.join kind entity body).Kept scheme := by
  intro stack frames start stage fits exist sound
  cases stage with
  | query built =>
      have clause := kept.clause fits exist (Item.validIn_noKeys built.context)
      have no_rows : ∀ plan ∈ (none : Option Plan), plan.Obeys scheme.rule [] := by simp
      exact (Query.keeps_joinRows sound kind entity no_rows clause).map
        fun _ _ _ refines => refines.follows
  | grouped | projected => exact Stage.keeps_unchanged sound

theorem joinQuery (kind : JoinKind) {source : Program} (source_kept : source.Kept scheme)
    (kept : Form.RunKept scheme body) :
    (Step.joinQuery kind source body).Kept scheme := by
  intro stack frames start stage fits exist sound
  cases stage with
  | query built =>
      refine (source_kept fits.1 exist).bind fun recording outcome grows meets => ?_
      have queried := Stage.meets_toQuery meets
      split
      · next error failed => exact .pure (Result.meets_error (queried.tame error failed))
      · next other found =>
          obtain ⟨other_sound, outermost, admitted, -⟩ := queried.holds other found
          -- the other program may have added queries, but none of those that were there is gone
          have exist := exist.mono grows
          have sound := sound.mono grows
          have clause := kept.clause fits.2 exist (Item.validIn_noKeys built.context)
          have joined :=
            Query.keeps_joinQuery sound kind other_sound.valid outermost admitted clause
          exact joined.map fun _ _ _ refines => refines.follows
  | grouped | projected => exact Stage.keeps_unchanged sound

theorem stack (op : SetOperator) {other : Program} (other_kept : other.Kept scheme) :
    (Step.stack op other).Kept scheme := by
  intro stack frames start stage fits exist sound
  refine (other_kept fits exist).bind fun recording outcome grows meets => ?_
  cases stage with
  | query built =>
      -- the other query has to be at the same stage, and is refused otherwise
      have queried := Stage.meets_toQuery meets
      dsimp only
      split
      · next error failed => exact .pure (Result.meets_error (queried.tame error failed))
      · next other found =>
          obtain ⟨other_sound, outermost, admitted, -⟩ := queried.holds other found
          have sound := sound.mono grows
          exact (Query.keeps_stack sound op other_sound.valid outermost admitted).map
            fun _ _ _ refines => refines.follows
  | projected built =>
      have projected := Stage.meets_toProjected meets
      dsimp only
      split
      · next error failed => exact .pure (Result.meets_error (projected.tame error failed))
      · next other found =>
          obtain ⟨other_sound, outermost, admitted, -⟩ := projected.holds other found
          have valid := (sound.mono grows).valid
          exact (ProjectedQuery.keeps_stack valid op other_sound.valid outermost admitted).map
            fun _ _ _ made => made.follows
  | grouped => exact Stage.keeps_unchanged (sound.mono grows)

/-! ## Settings -/

/-- A setting changes nothing that a rule asks something of. -/
theorem setting {step : Step} (sets : step.isSetting = true) : step.Kept scheme := by
  intro stack frames start stage _ _ sound
  cases step with
  | asTable | asTracking | withDeleted =>
      cases stage with
      | query built => exact Stage.keeps_setQuery sound rfl rfl rfl
      | grouped | projected => exact Stage.keeps_unchanged sound
  | limit | offset =>
      cases stage with
      | query built => exact Stage.keeps_setQuery sound rfl rfl rfl
      | grouped => exact Stage.keeps_unchanged sound
      | projected built => exact Stage.keeps_setProjected sound.valid rfl rfl rfl
  | _ => cases sets

/-! ## Projections and groups -/

theorem select (counted : Bool) (kept : Form.AllKept scheme body) :
    (Step.select body counted).Kept scheme := by
  intro stack frames start stage fits exist sound
  cases stage with
  | query built =>
      have clause := kept.items fits exist (Item.validIn_noKeys built.context)
      exact (Query.keeps_select sound.valid clause).map fun _ _ _ made => made.follows
  | grouped built =>
      have items := kept.items fits exist (GroupedQuery.Valid.ownKeys sound.valid)
      -- counting tells the observer something and leaves the body as it is
      have clause : ClauseKept scheme start stack built.query.context
          (fun tables => do
            if counted then Session.observe (.counted built.keys.length tables.length)
            Term.toItemsAll (← Form.evaluateAll (⟨tables, some built.keys⟩ :: frames) body))
          (fun recording items =>
            Item.ValidIn scheme.rule recording built.query.context items) := by
        intro recording tables grows tables_valid
        cases counted with
        | false => exact items recording tables grows tables_valid
        | true =>
            refine (Session.apart_observe _).keeps.bind fun later _ further _ => ?_
            exact items later tables (grows.trans further) fun table mem =>
              (tables_valid table mem).mono further
      exact (GroupedQuery.keeps_select sound.valid clause).map fun _ _ _ made => made.follows
  | projected => exact Stage.keeps_unchanged sound

theorem groupBy (kept : Form.AllKept scheme body) : (Step.groupBy body).Kept scheme := by
  intro stack frames start stage fits exist sound
  cases stage with
  | query built =>
      have clause := kept.items fits exist (Item.validIn_noKeys built.context)
      exact (Query.keeps_groupBy sound clause).map fun _ _ _ made => made.follows
  | grouped | projected => exact Stage.keeps_unchanged sound

theorem having (kept : Form.RunKept scheme body) : (Step.having body).Kept scheme := by
  intro stack frames start stage fits exist sound
  cases stage with
  | grouped built =>
      have clause := kept.clause fits exist (GroupedQuery.Valid.ownKeys sound.valid)
      exact (GroupedQuery.keeps_having sound clause).map fun _ _ _ made => made.follows
  | query | projected => exact Stage.keeps_unchanged sound

/-! ## Questions -/

theorem ask (ending : Ending) : (Step.ask ending).Kept scheme := by
  intro stack frames start stage fits exist sound
  refine (Session.apart_ask stage ending).keeps.bind fun first reply now _ => ?_
  refine (Session.apart_observe (.reply reply)).keeps.bind fun second _ later _ => ?_
  exact Stage.keeps_unchanged (sound.mono (now.trans later))

end Step.Kept

/-! ## Programs -/

theorem Step.allKept_nil : Step.AllKept scheme [] := by
  intro stack frames start stage position fits exist sound
  exact .pure (Result.meets_ok ⟨sound, rfl, rfl⟩)

theorem Step.AllKept.cons {step : Step} {rest : List Step} (first : step.Kept scheme)
    (others : Step.AllKept scheme rest) : Step.AllKept scheme (step :: rest) := by
  intro stack frames start stage position fits exist sound
  refine (first fits.1 exist sound).bind fun recording outcome grows meets => ?_
  cases outcome with
  | error error => exact .pure (Result.meets_error (meets.tame error rfl))
  | ok next =>
      -- the context stays the same from step to step, and each step starts from the setting that
      -- the one before has made
      obtain ⟨next_sound, same, settled⟩ := meets.holds next rfl
      have continued := others (position + 1) fits.2 (exist.mono grows) next_sound
      rw [same, settled] at continued
      exact continued

private theorem StepFailure.forget_eq_ok {α : Type} {outcome : Except StepFailure α} {value : α} :
    StepFailure.forget outcome = .ok value ↔ outcome = .ok value := by
  cases outcome with
  | error failure => exact ⟨nofun, nofun⟩
  | ok other => exact ⟨fun same => congrArg _ (Except.ok.inj same), fun same => congrArg _ same⟩

/-- The steps of a query that is written down reach a query, if they do not fail. -/
theorem Step.AllKept.reaches {steps : List Step} (kept : Step.AllKept scheme steps)
    {stack : List Closure} (fits : Step.AllFit scheme (Closure.namesOf stack) steps)
    {frames : List Frame} {start : Recording} (exist : Frame.TablesExist start frames)
    {query : Query} {base : EntityType} {enclosing : List ContextId}
    (made : query.Made scheme.rule base enclosing start) :
    Keeps scheme start stack (Step.evaluateAll frames 0 (.query query) steps) stack
      (fun recording outcome => Result.Meets scheme.rule
        (fun stage => stage.Sound scheme.rule recording ∧ stage.context = query.context ∧
          QueryText.Reaches scheme.rule ⟨base.name, steps⟩ recording stage)
        (StepFailure.forget outcome)) := by
  have known : query.context < start.contexts.length := made.sound.valid.known
  refine (kept 0 fits exist made.sound).ran.weaken
    fun recording outcome grows ⟨follows, before, after, here, ran, there, session_sound⟩ => ?_
  refine ⟨follows.tame, fun stage reached => ?_⟩
  obtain ⟨sound, same, settled⟩ := follows.holds stage reached
  subst here there
  cases StepFailure.forget_eq_ok.mp reached
  -- the run that reached the query is the one that the text asks for
  have builds : QueryText.Builds ⟨base.name, steps⟩ stage after :=
    ⟨frames, before, query, made.isNew, congrArg EntityType.name made.base, ran⟩
  have initial : (Stage.query query).setting = .initial := by
    rw [Stage.setting, Stage.clauses, made.isNew.clauses]
    rfl
  rw [initial] at settled
  -- joins have been added to the context, but its base is still the entity of the text
  have based : (after.recording.contextAt stage.context).base = base.name := by
    have start_base := (List.cons.inj made.isNew.tables).1
    rw [same]
    exact ((grows.base known).trans start_base).trans (congrArg _ made.base)
  have context_sound := session_sound.recording.contexts stage.context sound.valid.known
  exact ⟨sound, same, ⟨after, rfl, builds⟩, based, settled, context_sound⟩

theorem Program.kept_mk {beginning : Beginning} {steps : List Step}
    (admits : ∀ text ∈ beginning.text? steps, scheme.rule.Admits text)
    (kept : Step.AllKept scheme steps) : Program.Kept scheme ⟨beginning, steps⟩ := by
  intro stack frames start fits exist
  refine (Session.keeps_begin beginning).bind fun recording outcome grows meets => ?_
  cases outcome with
  | error error => exact .pure (Result.meets_error (meets.tame error rfl))
  | ok stage =>
      have starts := meets.holds stage rfl
      obtain ⟨sound, outermost⟩ := starts.sound
      have exist := exist.mono grows
      -- the context stays the same, and no context is put around it
      have ended : ∀ (later : Recording) (next : Stage), recording.Grows later →
          next.context = stage.context → next.Outermost later := by
        intro later next further same
        unfold Stage.Outermost
        rw [same]
        exact outermost.mono sound.valid.known further
      cases beginning with
      | entity connection name =>
          obtain ⟨query, base, rfl, rfl, made⟩ := starts
          refine (kept.reaches fits exist made).weaken fun later _ further meets => ?_
          refine meets.mono fun next ⟨next_sound, same, reached⟩ => ?_
          have admitted := admits ⟨base.name, steps⟩ rfl later next reached
          refine ⟨next_sound, ended later next further same, admitted, fun text own => ?_⟩
          cases own
          exact reached
      | kept name =>
          refine (kept 0 fits exist sound).weaken fun later _ further follows => ?_
          refine Result.Meets.mono follows fun next ⟨next_sound, same, _⟩ => ?_
          have admitted := starts.admits.admitted later next
          exact ⟨next_sound, ended later next further same, admitted, nofun⟩

end TrackedQuery
