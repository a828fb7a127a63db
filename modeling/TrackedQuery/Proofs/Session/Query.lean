import TrackedQuery.Proofs.Query.Tables
import TrackedQuery.Proofs.Session.Keeps

/-!
# Clauses keep queries valid

A clause takes a sound query to a sound one in the same context, provided that its body records
what is valid there (`ClauseKept`).  Everything in the plan of a valid query is as the rule asks at
the levels around its context, if the plan itself is as the rule asks of plans.  A query that is
stacked below another one, or whose rows are joined, is nested in no query, so its plan is as the
rule asks wherever it is placed.  Only these two clauses take the plan of another query, and so only
they ask that it is admitted.
-/

namespace TrackedQuery

/-- The levels around the query of a context. -/
def Recording.around (recording : Recording) (id : ContextId) : List Level :=
  (recording.contextAt id).enclosing.map recording.level

private theorem Context.valid_binding {recording : Recording} {id : ContextId}
    (known : id < recording.contexts.length) (table : Alias) :
    TableHandle.Valid recording ⟨id, (recording.contextAt id).binding? table⟩ := by
  intro binding mem
  obtain ⟨entity, found, rfl⟩ := Option.map_eq_some_iff.mp mem
  refine ⟨known, ?_⟩
  have inside := (List.getElem?_eq_some_iff.mp found).1
  rw [Context.length_tables] at inside
  exact inside

/-! ## Compilation -/

section Compile

variable {rule : Rule} {recording : Recording} {id : ContextId} {clauses : Clauses}
  {projection : Option (List Item)} {grouping : Option Grouping}

/-- If the plan of what is valid in a context is as the rule asks of plans, then everything in it is
as the rule asks around the context. -/
theorem Recording.ContextsSound.compile (sound : recording.ContextsSound rule)
    (known : id < recording.contexts.length) (obey : clauses.Obey rule (recording.levels id))
    (projected : ∀ items ∈ projection, Item.ValidIn rule recording id items)
    (grouped : ∀ grouping' ∈ grouping, grouping'.Obey rule (recording.levels id)) :
    Result.Meets rule (fun plan => rule.plan plan → plan.Obeys rule (recording.around id))
      (clauses.compile (recording.contextAt id) projection grouping) := by
  have levels : recording.levels id =
      (recording.contextAt id).level :: recording.around id := by
    rw [sound.level_eq known]
    rfl
  have context_sound := (sound id known).context
  unfold Item.ValidIn Expr.ValidIn at projected
  rw [levels] at obey projected grouped
  exact ⟨Clauses.isTame_compile context_sound obey projected grouped,
    fun plan compiled own =>
      Clauses.compile_obeys context_sound obey projected grouped compiled own⟩

theorem meets_checkUnion (left right : Plan) :
    Result.Meets rule (fun _ => True) (checkUnion left right) := by
  refine ⟨?_, fun _ _ => trivial⟩
  unfold checkUnion
  split
  · exact Result.isTame_ok _
  · exact Result.isTame_fail (by simp)

/-- The plan of a query that is nested in no other one is as the rule asks by itself. -/
theorem Recording.Grows.obeys_outermost {later : Recording} (grows : recording.Grows later)
    (known : id < recording.contexts.length)
    (outermost : (recording.contextAt id).enclosing = []) {plan : Plan}
    (obeys : plan.Obeys rule (later.around id)) : plan.Obeys rule [] := by
  unfold Recording.around at obeys
  rwa [grows.enclosing known, outermost] at obeys

/-- Stacking a plan that is nested in no other one. -/
theorem Clauses.Obey.stack {around : List Level} (obey : clauses.Obey rule around)
    (op : SetOperator) {plan : Plan} (obeys : plan.Obeys rule []) :
    Clauses.Obey rule around { clauses with arms := clauses.arms ++ [⟨op, plan⟩] } where
  filter := obey.filter
  orderBy := obey.orderBy
  arms arm mem := by
    rcases List.mem_append.mp mem with mem | mem
    · exact obey.arms arm mem
    · cases List.mem_singleton.mp mem
      exact obeys.mono fun _ => .nil _

end Compile

/-! ## Bodies -/

/-- The body of a clause, as it is run in a closure of its own. -/
def ClauseKept (scheme : Scheme) (start : Recording) (stack : List Closure) (context : ContextId)
    {α : Type} (body : List TableHandle → SessionM α) (post : Recording → α → Prop) : Prop :=
  ∀ recording tables, start.Grows recording → (∀ table ∈ tables, table.Valid recording) →
    Keeps scheme recording (⟨context, []⟩ :: stack) (body tables) (⟨context, []⟩ :: stack) post

variable {scheme : Scheme} {start : Recording} {stack : List Closure}

theorem ClauseKept.mono {later : Recording} {context : ContextId} {α : Type}
    {body : List TableHandle → SessionM α} {post : Recording → α → Prop}
    (kept : ClauseKept scheme start stack context body post) (grows : start.Grows later) :
    ClauseKept scheme later stack context body post :=
  fun recording tables further => kept recording tables (grows.trans further)

private theorem Query.keeps_tableHandles {query : Query}
    (known : query.context < start.contexts.length) :
    Keeps scheme start stack query.tableHandles stack
      (fun recording tables => ∀ table ∈ tables, table.Valid recording) := by
  refine .readContext fun _ => .pure fun table mem => ?_
  obtain ⟨tableAlias, -, rfl⟩ := List.mem_map.mp mem
  exact Context.valid_binding known tableAlias

/-- Running the body of a clause on the tables of a query, and going on with the outcome. -/
theorem Query.keeps_clause {query : Query} {sink : Sink} {α β : Type}
    {body : List TableHandle → SessionM α} {post : Recording → α → Prop}
    {next : Result (α × Sink) → SessionM β} {stack' : List Closure}
    {post' : Recording → β → Prop} (known : query.context < start.contexts.length)
    (empty : sink.Obeys scheme.rule (start.levels query.context))
    (kept : ClauseKept scheme start stack query.context body post)
    (stays : ∀ before after answer, before.Grows after → post before answer → post after answer)
    (rest : ∀ recording outcome, start.Grows recording →
      Result.Meets scheme.rule (fun (answer, recorded) => post recording answer ∧
        recorded.Obeys scheme.rule (recording.levels query.context)) outcome →
      Keeps scheme recording stack (next outcome) stack' post') :
    Keeps scheme start stack
      (query.tableHandles >>= fun tables =>
        recordClause query.context sink (body tables) >>= next) stack' post' := by
  refine (keeps_tableHandles known).bind fun first tables grows_first tables_valid => ?_
  have known_first := Nat.lt_of_lt_of_le known grows_first.length
  have empty_first := empty.mono (grows_first.levels query.context)
  have recorded : Keeps scheme first stack (recordClause query.context sink (body tables)) stack
      (fun recording outcome => Result.Meets scheme.rule (fun (answer, recorded) =>
        post recording answer ∧ recorded.Obeys scheme.rule (recording.levels query.context))
        outcome) := by
    refine (Keeps.beginClause known_first empty_first).bind fun second _ grows_second _ => ?_
    have body_kept := kept second tables (grows_first.trans grows_second)
      fun table mem => (tables_valid table mem).mono grows_second
    refine body_kept.bind fun third answer _ holds => ?_
    -- what the body answered still holds when the clause has ended
    refine Keeps.endClause.bind fun fourth outcome grows_fourth meets => .pure ?_
    exact meets.map fun sink obeys => ⟨stays third fourth answer grows_fourth holds, obeys⟩
  exact recorded.bind fun recording outcome further meets =>
    rest recording outcome (grows_first.trans further) meets

/-- What a clause answers: something that stands for a sound query in the given context and with
the given setting. -/
abbrev Result.Leads {α : Type} (rule : Rule) (toStage : α → Stage) (context : ContextId)
    (setting : Setting) (recording : Recording) (outcome : Result α) : Prop :=
  Result.Meets rule (fun answer => (toStage answer).SoundAs rule context setting recording) outcome

/-- What a clause of a query answers: a sound query in the same context, with the same setting. -/
abbrev Query.Refines (rule : Rule) (query : Query) (recording : Recording)
    (outcome : Result Query) : Prop :=
  Result.Leads rule .query query.context (Stage.query query).setting recording outcome

theorem obeys_noPredicates {rule : Rule} {around : List Level} :
    (Sink.predicates []).Obeys rule around :=
  fun _ mem => absurd mem List.not_mem_nil

private theorem obeys_noKeys {rule : Rule} {around : List Level} :
    (Sink.order []).Obeys rule around :=
  fun _ mem => absurd mem List.not_mem_nil

/-! ## Queries -/

namespace Query

variable {query : Query}

/-- A query of which nothing has been asked yet: it has no clauses, and its context has no table but
that of the base entity. -/
structure IsNew (recording : Recording) (query : Query) : Prop where
  clauses : query.clauses = .initial
  tables : (recording.contextAt query.context).tables = [query.base.name]

/-- What is known of a query that was just made over a base, inside the given contexts. -/
structure Made (rule : Rule) (base : EntityType) (enclosing : List ContextId)
    (recording : Recording) (query : Query) : Prop where
  sound : query.Sound rule recording
  isNew : query.IsNew recording
  base : query.base = base
  enclosing : (recording.contextAt query.context).enclosing = enclosing

/-- What a clause adds to a query, its tables stay as they are. -/
theorem sound_setClauses {rule : Rule} {recording : Recording} (sound : query.Sound rule recording)
    {clauses : Clauses} (obey : clauses.Obey rule (recording.levels query.context)) :
    Query.Sound rule recording { query with clauses := clauses } :=
  ⟨⟨sound.valid.known, obey⟩, sound.roots⟩

private theorem keeps_inContext (base : EntityType) (home : Option Connection) {context : Context}
    (tables : context.tables = [base.name]) (paths : context.paths = [])
    (database : start.Sound scheme.rule (stack.map Closure.context) →
      scheme.rule.database context.schema context.options)
    (ordered : start.Sound scheme.rule (stack.map Closure.context) →
      (start.contexts.length :: context.enclosing).Pairwise (· > ·)) :
    Keeps scheme start stack (inContext base home context) stack
      (Made scheme.rule base context.enclosing) := by
  have added : Keeps scheme start stack (modifyGetThe Recording (·.addContext context)) stack
      (fun recording id => id < recording.contexts.length ∧
        recording.contextAt id = { context with id := start.contexts.length }) := by
    refine .modifyGet fun sound => ?_
    have grows := start.grows_addContext context
    have joins : context.joins = [] := List.map_eq_nil_iff.mp (List.cons.inj tables).2
    have contexts := sound.contexts.addContext joins paths (database sound) (ordered sound)
    refine ⟨sound.changeContexts grows rfl contexts, grows, ?_, ?_⟩
    · simp [Recording.addContext]
    · rw [Recording.contextAt_addContext]
  refine added.map fun recording id _ known_here => ?_
  obtain ⟨known, here⟩ := known_here
  refine ⟨⟨⟨known, ?_⟩, List.forall_mem_singleton.mpr ?_⟩, ⟨rfl, ?_⟩, rfl, ?_⟩
  · exact ⟨List.forall_mem_nil _, List.forall_mem_nil _, List.forall_mem_nil _⟩
  · exact Context.root_base ((congrArg Context.paths here).trans paths)
  · exact (congrArg Context.tables here).trans tables
  · exact (congrArg Context.enclosing here :)

theorem keeps_ofConnection {connection : Connection}
    (database : scheme.rule.database connection.schema connection.options) (base : EntityType) :
    Keeps scheme start stack (ofConnection connection base) stack (Made scheme.rule base []) :=
  keeps_inContext base (some connection) rfl rfl (fun _ => database)
    fun _ => List.pairwise_singleton _ _

/-- A nested query reads the database of the query that it is nested in. -/
theorem keeps_nestedIn {parent : ContextId} (known : parent < start.contexts.length)
    (base : EntityType) :
    Keeps scheme start stack (nestedIn parent base) stack
      (Made scheme.rule base (start.scope parent)) :=
  .read fun _ => keeps_inContext base none rfl rfl
    (fun sound => (sound.contexts parent known).context.database)
    fun sound => sound.contexts.ordered_inside known

theorem keeps_compile (valid : query.Valid scheme.rule start) :
    Keeps scheme start stack query.compile stack
      (fun recording outcome => recording = start ∧ Result.Meets scheme.rule
        (fun plan => (Stage.query query).Admitted scheme.rule recording →
          plan.Obeys scheme.rule (recording.around query.context)) outcome) := by
  refine .readContext fun sound => .pure ⟨rfl, ?_⟩
  have meets : Result.Meets scheme.rule _
      (query.clauses.compile (start.contextAt query.context) none none) :=
    sound.contexts.compile valid.known valid.clauses (by simp) (by simp)
  exact ⟨meets.tame, fun plan compiled admitted =>
    meets.holds plan compiled (admitted plan compiled)⟩

theorem keeps_filterBy (sound : query.Sound scheme.rule start)
    {body : List TableHandle → SessionM Unit}
    (kept : ClauseKept scheme start stack query.context body fun _ _ => True) :
    Keeps scheme start stack (query.filterBy body) stack (query.Refines scheme.rule) := by
  refine keeps_clause sound.valid.known obeys_noPredicates kept (fun _ _ _ _ _ => trivial) ?_
  intro recording outcome grows meets
  have later := sound.mono grows
  have still : query.Valid scheme.rule recording := later.valid
  refine .pure (meets.map fun ⟨_, recorded⟩ ⟨_, obeys⟩ => ⟨sound_setClauses later ?_, rfl, rfl⟩)
  refine ⟨fun statement mem => ?_, still.clauses.orderBy, still.clauses.arms⟩
  rcases List.mem_append.mp mem with mem | mem
  · exact still.clauses.filter statement mem
  · exact obeys.statements statement mem

theorem keeps_orderBy (sound : query.Sound scheme.rule start)
    {body : List TableHandle → SessionM Unit}
    (kept : ClauseKept scheme start stack query.context body fun _ _ => True) :
    Keeps scheme start stack (query.orderBy body) stack (query.Refines scheme.rule) := by
  refine keeps_clause sound.valid.known obeys_noKeys kept (fun _ _ _ _ _ => trivial) ?_
  intro recording outcome grows meets
  have later := sound.mono grows
  have still : query.Valid scheme.rule recording := later.valid
  refine .pure (meets.map fun ⟨_, recorded⟩ ⟨_, obeys⟩ => ⟨sound_setClauses later ?_, rfl, rfl⟩)
  refine ⟨still.clauses.filter, fun key mem => ?_, still.clauses.arms⟩
  rcases List.mem_append.mp mem with mem | mem
  · exact still.clauses.orderBy key mem
  · exact obeys.sortKeys key mem

private theorem meets_keyValues {rule : Rule} (entity : Entity) (id : Value) :
    Result.Meets rule (fun _ => True) (keyValues entity id) := by
  unfold keyValues
  split
  · exact Result.meets_ok trivial
  · split
    · exact Result.meets_ok trivial
    · exact ⟨Result.isTame_fail (by simp), fun _ _ => trivial⟩
  · exact ⟨Result.isTame_fail (by simp), fun _ _ => trivial⟩

/-- The equations of key columns read the base table. -/
theorem meets_keyEquations {rule : Rule} {level : Level} (has : level.has baseAlias)
    (around : List Level) (entity : Entity) (indices : List Nat) (values : Row) :
    Result.Meets rule (fun equations => ∀ equation ∈ equations,
      equation.Obeys rule (level :: around)) (keyEquations entity indices values) := by
  induction indices generalizing values with
  | nil => exact Result.meets_ok (List.forall_mem_nil _)
  | cons index indices ih =>
      cases values with
      | nil => exact Result.meets_ok (List.forall_mem_nil _)
      | cons value values =>
          unfold keyEquations
          split
          · exact ih values
          · split
            · refine (ih values).bind fun rest obeys => Result.meets_ok ?_
              refine List.forall_mem_cons.mpr ⟨?_, obeys⟩
              exact ⟨Expr.obeys_local has index, Expr.obeys_value value⟩
            · refine ⟨Result.isTame_fail (by simp), fun _ same => ?_⟩
              cases same

theorem keeps_filterByKey (sound : query.Sound scheme.rule start) (id : Value) :
    Keeps scheme start stack (query.filterByKey id) stack (query.Refines scheme.rule) := by
  have valid : query.Valid scheme.rule start := sound.valid
  refine .readContext fun _ => .pure ?_
  have has : (start.level query.context).has baseAlias := Nat.succ_pos _
  have resolved : Result.Meets scheme.rule (fun _ => True)
      ((start.contextAt query.context).schema.resolve query.base.name) :=
    ⟨Schema.isTame_resolve _ _, fun _ _ => trivial⟩
  refine resolved.bind fun entity _ => (meets_keyValues entity id).bind fun values _ => ?_
  refine (meets_keyEquations has (start.around query.context) entity entity.primaryKey values).bind
    fun equations obey => ?_
  refine Result.meets_ok ⟨sound_setClauses sound ?_, rfl, rfl⟩
  refine ⟨fun statement mem => ?_, valid.clauses.orderBy, valid.clauses.arms⟩
  rcases List.mem_append.mp mem with mem | mem
  · exact valid.clauses.filter statement mem
  · rw [List.mem_singleton.mp mem]
    exact Expr.obeys_all obey

/-! ## Joins -/

/-- Replacing a context by one that it has grown to. -/
theorem keeps_growContext {id : ContextId} {after : Context}
    (grows : (start.contextAt id).Grows after)
    (replaced : after.Sound scheme.rule (start.around id)) :
    Keeps scheme start stack (modifyThe Recording (·.setContext id after)) stack
      (fun recording _ => recording = start.setContext id after) := by
  refine .modify fun sound => ?_
  obtain ⟨kept, recording_grows⟩ := sound.growContext grows replaced
  exact ⟨kept, recording_grows, rfl⟩

theorem keeps_joinRows (sound : query.Sound scheme.rule start) (kind : JoinKind) (entity : String)
    {rows : Option Plan} (nested : ∀ plan ∈ rows, plan.Obeys scheme.rule [])
    {body : List TableHandle → SessionM Unit}
    (kept : ClauseKept scheme start stack query.context body fun _ _ => True) :
    Keeps scheme start stack (query.joinRows kind entity rows body) stack
      (query.Refines scheme.rule) := by
  have known : query.context < start.contexts.length := sound.valid.known
  refine .readContext fun recorded_sound => ?_
  obtain ⟨-, context_sound, -⟩ := recorded_sound.contexts _ known
  split
  · next error failed =>
      exact .pure (Result.meets_error (Context.isTame_beginJoin _ kind entity rows error failed))
  · next table context begun =>
      obtain ⟨context_grows, root⟩ := Context.grows_beginJoin begun
      have replaced := context_sound.beginJoin nested begun
      refine (keeps_growContext context_grows replaced).bind fun first _ grows here => ?_
      -- no path leads to the table that was requested
      have joined :
          Query.Sound scheme.rule first { query with tables := query.tables ++ [table] } := by
        have still := sound.mono grows
        have still_valid : query.Valid scheme.rule first := still.valid
        refine ⟨⟨still_valid.known, still_valid.clauses⟩, fun other mem => ?_⟩
        rcases List.mem_append.mp mem with mem | mem
        · exact still.roots other mem
        · cases List.mem_singleton.mp mem
          show (first.contextAt query.context).Root table
          rw [here, Recording.contextAt_setContext_self known]
          exact root context_sound.paths
      -- the condition is built when the table is there, and may read it
      refine keeps_clause joined.valid.known obeys_noPredicates (kept.mono grows)
        (fun _ _ _ _ _ => trivial) fun second outcome further meets => ?_
      split
      · next error => exact .pure (Result.meets_error (meets.tame error rfl))
      · next recorded =>
          obtain ⟨-, obeys⟩ := meets.holds _ rfl
          have joined := joined.mono further
          have known_second : query.context < second.contexts.length := joined.valid.known
          refine .readContext fun sound => ?_
          have condition : (Expr.all recorded.statements).Obeys scheme.rule
              ((second.contextAt query.context).level :: second.around query.context) := by
            rw [sound.contexts.level_eq known_second]
            exact Expr.obeys_all obeys.statements
          have completed :=
            (sound.contexts _ known_second).context.completeJoin table condition
          have grown := (second.contextAt query.context).grows_completeJoin table
            (.all recorded.statements)
          exact (keeps_growContext grown completed).bind fun _ _ last _ =>
            .pure (Result.meets_ok ⟨joined.mono last, rfl, rfl⟩)

theorem keeps_joinQuery (sound : query.Sound scheme.rule start) (kind : JoinKind) {source : Query}
    (source_valid : source.Valid scheme.rule start)
    (outermost : (start.contextAt source.context).enclosing = [])
    (admitted : (Stage.query source).Admitted scheme.rule start)
    {body : List TableHandle → SessionM Unit}
    (kept : ClauseKept scheme start stack query.context body fun _ _ => True) :
    Keeps scheme start stack (query.joinQuery kind source body) stack
      (query.Refines scheme.rule) := by
  refine (keeps_compile source_valid).bind fun recording outcome grows ⟨same, meets⟩ => ?_
  subst same
  cases outcome with
  | error error => exact .pure (Result.meets_error (meets.tame error rfl))
  | ok rows =>
      refine keeps_joinRows sound kind source.base.name (fun plan mem => ?_) kept
      cases mem
      exact grows.obeys_outermost source_valid.known outermost (meets.holds rows rfl admitted)

/-! ## Set operations -/

theorem keeps_stack (sound : query.Sound scheme.rule start) (op : SetOperator) {other : Query}
    (other_valid : other.Valid scheme.rule start)
    (outermost : (start.contextAt other.context).enclosing = [])
    (admitted : (Stage.query other).Admitted scheme.rule start) :
    Keeps scheme start stack (query.stack op other) stack (query.Refines scheme.rule) := by
  have valid : query.Valid scheme.rule start := sound.valid
  refine (keeps_compile valid).bind fun first left _ ⟨same, left_meets⟩ => ?_
  subst same
  refine (keeps_compile other_valid).bind fun second right grows ⟨same, right_meets⟩ => ?_
  subst same
  -- the plan of the query itself is only compared, so nothing need be known of it
  refine .pure (left_meets.bind fun left _ => right_meets.bind fun right right_obeys => ?_)
  have right_obeys := grows.obeys_outermost other_valid.known outermost (right_obeys admitted)
  exact (meets_checkUnion left right).bind fun _ _ =>
    Result.meets_ok ⟨sound_setClauses sound (valid.clauses.stack op right_obeys), rfl, rfl⟩

end Query

end TrackedQuery
