import TrackedQuery.Program.Ask
import TrackedQuery.Proofs.Query.Layout
import TrackedQuery.Proofs.Result
import TrackedQuery.Proofs.Tracking.Load

/-!
# What tasks capture

A task that loads instances for a tracked query notes the scope when it is started and captures the
rows of the answer when it is run, which may be much later.  By then the scope can be closed, and
the first row is refused.

Whether anything is captured is decided when the task is started.  A query that is tracked has no
task outside of a scope, and inside of one every instance that it answers has the key of a snapshot.
A projection loads entities without a scope, whether its query is tracked or not
(`Query.tracked_terminals`).

## Strategy

* Rows are loaded one by one.  Each captures its key, and no later one takes a snapshot away
  (`loadEach_hasCaptured`), so every instance that was loaded has its key there at the end
  (`loadEach_mem`).
* `Task.Receives` says that a task is answered rows, at once or after a count.  Its run loads these
  rows and makes something of the instances (`Task.Receives.run`).  If it is answered none, it
  answers no instances and captures nothing (`Task.Loads.run_cases`).
* `Task.Loads` is what starting tells of a task: the scope that it was started for, and that its
  outcome holds no instances but those it loads (`Query.loads_of_start`).
-/

namespace TrackedQuery

variable {δ : Type} {schema : Schema} {type : EntityType} {entity : Entity} {plan : Plan}
  {scope : Option ScopeId} {rows : List Row} {world between after : World δ}

/-! ## Captured rows -/

namespace Tracking

/-- A scope has a snapshot of a key. -/
def HasCaptured (tracking : Tracking) (scope : ScopeId) (key : EntityKey) : Prop :=
  ∃ snapshot ∈ (tracking.scopeAt scope).snapshots, snapshot.key = key

/-- Looking a captured key up finds a snapshot, unless the key differs from itself. -/
theorem HasCaptured.snapshot?_isSome {tracking : Tracking} {scope : ScopeId} {key : EntityKey}
    (captured : tracking.HasCaptured scope key) (whole : key.foundUnder key = true) :
    ((tracking.scopeAt scope).snapshot? key).isSome = true := by
  obtain ⟨snapshot, stored, rfl⟩ := captured
  exact List.find?_isSome.mpr ⟨snapshot, stored, whole⟩

/-- What was captured before a capture still is, and so is what it captures. -/
theorem hasCaptured_capture {tracking : Tracking} {scope : ScopeId} {snapshot : Snapshot}
    (known : scope < tracking.scopes.length) {key : EntityKey} :
    (tracking.HasCaptured scope key ∨ key = snapshot.key) →
      (tracking.modifyScope scope (·.capture snapshot)).HasCaptured scope key := by
  unfold HasCaptured
  rw [scopeAt_modifyScope_self known]
  rintro (⟨earlier, stored, rfl⟩ | rfl)
  · refine ⟨_, Scope.mem_insertSnapshot_of_mem stored, ?_⟩
    split
    · next own => exact ((EntityKey.foundUnder_iff _ _).mp own).1.symm
    · rfl
  · exact ⟨snapshot, Scope.mem_insertSnapshot_self _ _, rfl⟩

end Tracking

section LoadEach

variable {scope : ScopeId} {tracking after : Tracking} {instances : List Instance}

/-- Loading rows captures the key of each, and loses none. -/
theorem loadEach_hasCaptured
    (loaded : loadEach entity type (some scope) tracking rows = (.ok instances, after))
    {key : EntityKey}
    (captured : tracking.HasCaptured scope key ∨
      ∃ row ∈ rows, EntityKey.ofRecord entity row = .ok key) : after.HasCaptured scope key := by
  induction rows generalizing tracking instances with
  | nil =>
      cases loaded
      simpa using captured
  | cons row rows ih =>
      obtain ⟨own, first, others, -, hown, opened, -, -, rest⟩ := loadEach_cons loaded
      refine ih rest ?_
      -- captures replace snapshots, and take none away
      have now := @Tracking.hasCaptured_capture _ _ ⟨own, row⟩ (Tracking.known_of_depth opened) key
      rcases captured with earlier | ⟨other, mem, hkey⟩
      · exact .inl (now (.inl earlier))
      · rcases List.mem_cons.mp mem with rfl | later
        · rw [hown] at hkey
          exact .inl (now (.inr (Except.ok.inj hkey).symm))
        · exact .inr ⟨other, later, hkey⟩

/-- An instance was loaded from a row, the key of which is captured. -/
theorem loadEach_mem
    (loaded : loadEach entity type (some scope) tracking rows = (.ok instances, after))
    {subject : Instance} (mem : subject ∈ instances) :
    ∃ row ∈ rows, ∃ key, EntityKey.ofRecord entity row = .ok key ∧ type.load row = .ok subject ∧
      after.HasCaptured scope key := by
  obtain ⟨length, positions⟩ := loadEach_getElem? loaded
  obtain ⟨index, hsubject⟩ := List.getElem?_of_mem mem
  obtain ⟨row, hrow⟩ : ∃ row, rows[index]? = some row :=
    ⟨_, List.getElem?_eq_getElem (length ▸ (List.getElem?_eq_some_iff.mp hsubject).1)⟩
  obtain ⟨wide, read⟩ := positions index row subject hrow hsubject
  obtain ⟨fields, hkey, -⟩ := EntityKey.ofRecord_of_wide wide
  have here := List.mem_of_getElem? hrow
  exact ⟨row, here, _, hkey, read, loadEach_hasCaptured loaded (.inr ⟨row, here, hkey⟩)⟩

/-- The first row that is to be captured in a scope that was closed meanwhile is refused, unless it
has the wrong width. -/
theorem loadEach_cons_of_closed (closed : (tracking.scopeAt scope).depth = 0) (row : Row)
    (rows : List Row) :
    loadEach entity type (some scope) tracking (row :: rows) =
      (fail (if row.length = entity.columns.length then .trackingNotActive "as_tracking"
        else .database (.rowWidth entity.columns.length type.name row.length)), tracking) := by
  unfold loadEach
  split
  · next wide =>
      obtain ⟨fields, hkey, -⟩ := EntityKey.ofRecord_of_wide wide
      simp [captureRow, hkey, bind, Except.bind, Tracking.capture, closed, fail]
  · rfl

theorem loadEach_of_closed (closed : (tracking.scopeAt scope).depth = 0) (rows : List Row) :
    (loadEach entity type (some scope) tracking rows).2 = tracking := by
  cases rows with
  | nil => rfl
  | cons row rows => rw [loadEach_cons_of_closed closed]

/-- Where no scope was noted, nothing is captured. -/
theorem loadEach_none_tracking (tracking : Tracking) (rows : List Row) :
    (loadEach entity type none tracking rows).2 = tracking := by
  induction rows with
  | nil => rfl
  | cons row rows ih =>
      unfold loadEach
      split
      · simp only [captureRow]
        cases type.load row with
        | error error => rfl
        | ok loaded => exact ih
      · rfl

end LoadEach

/-! ## Running a task -/

/-- The rows that a task loads instances of a type from, and the worlds in which it is answered
them. -/
inductive Task.Receives (schema : Schema) (type : EntityType) (scope : Option ScopeId)
    (rows : List Row) (world after : World δ) : Task → Prop where
  | load {plan : Plan} {finish : List Instance → Result Outcome}
      (answered : world.send (.query plan) = (.ok (.rows rows), after)) :
      Receives schema type scope rows world after (.load schema type plan scope finish)
  | page {plans : PagePlan} {between : World δ} {others : Nat}
      (counted : fetchCount plans.count world = (.ok (others + 1), between))
      (answered : between.send (.query plans.data) = (.ok (.rows rows), after)) :
      Receives schema type scope rows world after (.page schema type plans scope)

private theorem loadRows_eq (registered : schema.resolve type.name = .ok entity) :
    loadRows schema type scope rows world =
      ((loadEach entity type scope world.tracking rows).1,
        { world with tracking := (loadEach entity type scope world.tracking rows).2 }) := by
  unfold loadRows
  rw [registered]
  rfl

theorem loadPlan_eq (registered : schema.resolve type.name = .ok entity)
    (answered : world.send (.query plan) = (.ok (.rows rows), after)) :
    loadPlan schema type plan scope world =
      ((loadEach entity type scope after.tracking rows).1,
        { after with tracking := (loadEach entity type scope after.tracking rows).2 }) :=
  (bind_eq (fetchRows_eq answered)).trans (loadRows_eq registered)

private theorem loadRows_untracked (schema : Schema) (type : EntityType) (rows : List Row)
    (world : World δ) : (loadRows schema type none rows world).2 = world := by
  cases registered : schema.resolve type.name with
  | error error =>
      unfold loadRows
      rw [registered]
      rfl
  | ok entity => rw [loadRows_eq registered, loadEach_none_tracking]

/-- A plan is not answered rows, or its rows are loaded. -/
theorem loadPlan_cases (schema : Schema) (type : EntityType) (plan : Plan) (scope : Option ScopeId)
    (world : World δ) :
    (∃ error, loadPlan schema type plan scope world =
      (.error error, (world.send (.query plan)).2)) ∨
    ∃ rows after entity, world.send (.query plan) = (.ok (.rows rows), after) ∧
      schema.resolve type.name = .ok entity := by
  generalize sent : world.send (.query plan) = outcome
  obtain ⟨answer, after⟩ := outcome
  -- an answer that is no list of rows is an error, and so is an entity that is unknown
  have fetched : fetchRows plan world = (answer.bind Answer.toRows, after) := bind_eq sent
  cases answer with
  | error error => exact .inl ⟨error, bind_eq fetched⟩
  | ok answer =>
      cases answer with
      | count number => exact .inl ⟨_, bind_eq fetched⟩
      | rows rows =>
          cases registered : schema.resolve type.name with
          | error error =>
              refine .inl ⟨error, (bind_eq fetched).trans ?_⟩
              show loadRows schema type scope rows after = _
              unfold loadRows
              rw [registered]
              rfl
          | ok entity => exact .inr ⟨rows, after, entity, rfl, rfl⟩

/-- What is made of loaded instances has no others in it. -/
def Selects (finish : List Instance → Result Outcome) : Prop :=
  ∀ instances outcome, finish instances = .ok outcome → outcome.instances ⊆ instances

/-- A task that loads instances of a type for a scope, and answers none but these. -/
inductive Task.Loads (schema : Schema) (type : EntityType) (scope : Option ScopeId) :
    Task → Prop where
  | load {plan : Plan} {finish : List Instance → Result Outcome} (selects : Selects finish) :
      Loads schema type scope (.load schema type plan scope finish)
  | page {plans : PagePlan} : Loads schema type scope (.page schema type plans scope)

namespace Task

variable {task : Task}

/-- A task that receives rows loads them, and makes something of the instances. -/
theorem Receives.run (received : Receives schema type scope rows world between task)
    (registered : schema.resolve type.name = .ok entity) :
    ∃ finish, (task.Loads schema type scope → Selects finish) ∧
      task.run world = ((loadEach entity type scope between.tracking rows).1.bind finish,
        { between with tracking := (loadEach entity type scope between.tracking rows).2 }) := by
  cases received with
  | @load plan finish answered =>
      refine ⟨finish, ?_, bind_eq (loadPlan_eq registered answered)⟩
      rintro (⟨selects⟩)
      exact selects
  | @page plans counted others hcount answered =>
      refine ⟨fun instances => .ok (.page ⟨others + 1, instances.take plans.size⟩), ?_, ?_⟩
      · rintro - instances outcome ⟨⟩
        exact List.take_subset _ _
      · refine (bind_eq hcount).trans ((bind_eq (loadPlan_eq registered answered)).trans ?_)
        cases (loadEach entity type scope counted.tracking rows).1 <;> rfl

private theorem Receives.run_ok (received : Receives schema type scope rows world between task)
    (registered : schema.resolve type.name = .ok entity) (loads : task.Loads schema type scope)
    {outcome : Outcome} (ran : task.run world = (.ok outcome, after)) :
    ∃ instances, loadEach entity type scope between.tracking rows =
        (.ok instances, after.tracking) ∧ outcome.instances ⊆ instances := by
  obtain ⟨finish, selects, runs⟩ := received.run registered
  rw [runs] at ran
  obtain ⟨made, rfl⟩ := Prod.mk.inj ran
  obtain ⟨instances, loaded, finished⟩ := Result.bind_eq_ok.mp made
  exact ⟨instances, Prod.ext loaded rfl, selects loads instances outcome finished⟩

/-- A task that receives no rows answers no instances and captures nothing. -/
theorem Loads.run_cases (loads : task.Loads schema type scope) (world : World δ) :
    ((task.run world).2.tracking = world.tracking ∧
      ∀ outcome, (task.run world).1 = .ok outcome → outcome.instances = []) ∨
    ∃ rows between entity, Receives schema type scope rows world between task ∧
      schema.resolve type.name = .ok entity := by
  cases loads with
  | @load plan finish =>
      rcases loadPlan_cases schema type plan scope world with
        ⟨error, failed⟩ | ⟨rows, after, entity, answered, registered⟩
      · have ran : (Task.load schema type plan scope finish).run world =
            (.error error, (world.send (.query plan)).2) := bind_eq failed
        refine .inl ⟨by rw [ran]; rfl, fun outcome ok => ?_⟩
        rw [ran] at ok
        cases ok
      · exact .inr ⟨rows, after, entity, .load answered, registered⟩
  -- a page counts first, and loads only if there is something to load
  | @page plans =>
      generalize hcount : fetchCount plans.count world = counted
      obtain ⟨count, between⟩ := counted
      have kept : between.tracking = world.tracking :=
        congrArg (fun counted : Result Nat × World δ => counted.2.tracking) hcount.symm
      match count with
      | .error error =>
          have ran : (Task.page schema type plans scope).run world = (.error error, between) :=
            bind_eq hcount
          refine .inl ⟨by rw [ran, kept], fun outcome ok => ?_⟩
          rw [ran] at ok
          cases ok
      | .ok 0 =>
          have ran : (Task.page schema type plans scope).run world =
              (.ok (.page ⟨0, []⟩), between) := bind_eq hcount
          refine .inl ⟨by rw [ran, kept], fun outcome ok => ?_⟩
          rw [ran] at ok
          cases ok
          rfl
      | .ok (others + 1) =>
          rcases loadPlan_cases schema type plans.data scope between with
            ⟨error, failed⟩ | ⟨rows, after, entity, answered, registered⟩
          · have ran : (Task.page schema type plans scope).run world =
                (.error error, (between.send (.query plans.data)).2) :=
              (bind_eq hcount).trans (bind_eq failed)
            refine .inl ⟨by rw [ran]; exact kept, fun outcome ok => ?_⟩
            rw [ran] at ok
            cases ok
          · exact .inr ⟨rows, after, entity, .page hcount answered, registered⟩

/-- A task that notes no scope sends its plan and changes nothing else. -/
theorem run_load_untracked (schema : Schema) (type : EntityType) (plan : Plan)
    (finish : List Instance → Result Outcome) (world : World δ) :
    ((Task.load schema type plan none finish).run world).2 = (world.send (.query plan)).2 := by
  rcases loadPlan_cases schema type plan none world with
    ⟨error, failed⟩ | ⟨rows, after, entity, answered, registered⟩
  · exact congrArg Prod.snd (bind_eq failed)
  · refine (congrArg Prod.snd (bind_eq (loadPlan_eq registered answered))).trans ?_
    rw [answered, loadEach_none_tracking]
    rfl

private theorem run_widen_untracked (schema : Schema) (type : EntityType) (plan : Plan)
    (layout : Layout) (world : World δ) :
    ((Task.widen schema type plan layout).run world).2 = (world.send (.query plan)).2 := by
  have fetched : fetchRows plan world =
      ((world.send (.query plan)).1.bind Answer.toRows, (world.send (.query plan)).2) := rfl
  refine (congrArg Prod.snd (bind_eq fetched)).trans ?_
  cases ((world.send (.query plan)).1.bind Answer.toRows).bind layout.widenAll with
  | error error => rfl
  | ok rows => exact loadRows_untracked schema type rows _

/-- Sending changes no scope. -/
theorem Receives.tracking (received : Receives schema type scope rows world between task) :
    between.tracking = world.tracking := by
  have sent : ∀ {world after : World δ} {plan : Plan} {answer : Result Answer},
      world.send (.query plan) = (answer, after) → after.tracking = world.tracking := by
    rintro world after plan answer ⟨⟩
    rfl
  cases received with
  | load answered => exact sent answered
  | page counted answered =>
      exact (sent answered).trans
        (congrArg (fun counted : Result Nat × World δ => counted.2.tracking) counted.symm)

end Task

/-! ## Executing an update -/

namespace PreparedUpdate

variable {prepared : PreparedUpdate} {update : Update}

theorem execute_of_error (writes : prepared.update = some update) {error : Error}
    (failed : world.send (.update update) = (.error error, after)) :
    prepared.execute world = (.error error, after) := by
  have sent : sendOperation (.update update) world = (.error error, after) := failed
  unfold execute
  rw [writes]
  exact bind_eq sent

/-- An update that succeeds refreshes the snapshot in the scope that was noted. -/
theorem execute_of_ok (writes : prepared.update = some update) {answer : Answer}
    (succeeded : world.send (.update update) = (.ok answer, after)) :
    prepared.execute world =
      (.ok answer.toCount,
        { after with
          tracking := prepared.scope.elim after.tracking fun scope =>
            after.tracking.refresh scope prepared.key prepared.record }) := by
  have sent : sendOperation (.update update) world = (.ok answer, after) := succeeded
  unfold execute
  rw [writes]
  refine (bind_eq sent).trans ?_
  cases prepared.scope <;> rfl

end PreparedUpdate

/-! ## Starting a task -/

/-- Whether instances are loaded for an answer. -/
def Terminal.loads : Terminal → Bool
  | .list | .first? | .first _ | .page _ _ => true
  | .count | .any => false

namespace Query

variable {query : Query} {connection : Connection} {context : Context} {tracking : Tracking}
  {thread : ThreadId} {terminal : Terminal} {task : Task}

private theorem selects_list : Selects (.ok ∘ Outcome.list) := by
  rintro instances outcome ⟨⟩
  exact List.Subset.refl _

private theorem selects_first? : Selects fun instances => .ok (.first? instances.head?) := by
  rintro instances outcome ⟨⟩ subject found
  exact List.mem_of_mem_head? (Option.mem_toList.mp found)

private theorem selects_required (text : Option String) : Selects (required text) := by
  intro instances outcome finished
  cases instances with
  | nil => cases finished
  | cons first rest =>
      cases finished
      simp [Outcome.instances]

/-- A tracked query loads nothing outside of a scope. -/
theorem start_of_inactive (home : query.home = some connection)
    (tracked : query.clauses.tracking = true) (loads : terminal.loads = true)
    (inactive : tracking.active? thread connection.manager = none) :
    query.start context tracking thread terminal = fail (.trackingNotActive "as_tracking") := by
  have scope : query.trackingScope connection tracking thread =
      fail (.trackingNotActive "as_tracking") := by
    rw [trackingScope, if_pos tracked, Tracking.requireActive, inactive]
    rfl
  cases terminal with
  | count | any => cases loads
  | list | first? | first _ | page _ _ =>
      simp [start, startLoad, homeOf, home, scope, fail, bind, Except.bind]

/-- Inside of a scope it loads for this scope. -/
theorem loads_of_start (home : query.home = some connection)
    (tracked : query.clauses.tracking = true) (loads : terminal.loads = true) {scope : ScopeId}
    (active : tracking.active? thread connection.manager = some scope)
    (started : query.start context tracking thread terminal = .ok task) :
    task.Loads connection.schema query.base (some scope) := by
  -- a query that is tracked notes the scope before anything is sent
  have noted : query.trackingScope connection tracking thread = .ok (some scope) := by
    rw [trackingScope, if_pos tracked, Tracking.requireActive, active]
    rfl
  have load : ∀ {clauses : Clauses} {finish : List Instance → Result Outcome}, Selects finish →
      query.startLoad clauses context tracking thread finish = .ok task →
        task.Loads connection.schema query.base (some scope) := by
    intro clauses finish selects started
    simp only [startLoad, homeOf, home, noted, bind, Except.bind] at started
    split at started
    · cases started
    · cases started
      exact .load selects
  cases terminal with
  | count | any => cases loads
  | list => exact load selects_list started
  | first? => exact load selects_first? started
  | first text => exact load (selects_required text) started
  | page index size =>
      simp only [start, homeOf, home, noted, bind, Except.bind] at started
      split at started
      · cases started
      · cases started
        exact .page

end Query

/-- A projection that loads entities sends its plan and captures nothing. -/
theorem ProjectedQuery.run_entities {query : ProjectedQuery} {context : Context} {task : Task}
    (started : query.start context (.entities type) = .ok task) :
    ∃ plan, query.clauses.compile context (some query.items) query.grouping = .ok plan ∧
      ∀ {δ : Type} (world : World δ), (task.run world).2 = (world.send (.query plan)).2 := by
  obtain ⟨connection, -, started⟩ := Result.bind_eq_ok.mp started
  obtain ⟨plan, compiled, started⟩ := Result.bind_eq_ok.mp started
  obtain ⟨entity, -, started⟩ := Result.bind_eq_ok.mp started
  obtain ⟨layout, -, started⟩ := Result.bind_eq_ok.mp started
  refine ⟨plan, compiled, ?_⟩
  cases layout with
  | none =>
      cases started
      exact fun world => Task.run_load_untracked _ _ _ _ world
  | some layout =>
      cases started
      exact fun world => Task.run_widen_untracked _ _ _ _ world

/-- A projection that loads entities pays no attention to the mark of tracked queries. -/
theorem ProjectedQuery.start_unmarked (query : ProjectedQuery) (context : Context)
    (terminal : ProjectedTerminal) :
    { query with clauses := { query.clauses with tracking := false } }.start context terminal =
      query.start context terminal := by
  cases terminal <;> rfl

/-- A tracked query captures what it loads in the scope of the thread that starts it.  Without a
scope it fails before anything is sent, and with one, every instance it answers was loaded from a
row whose key is captured there.  The instances of a projection are not: whether there is a scope
or not, it runs like one of an untracked query, sends its plan and captures nothing. -/
theorem Query.tracked_terminals {query : Query} {connection : Connection}
    (home : query.home = some connection) (tracked : query.clauses.tracking = true)
    (context : Context) (tracking : Tracking) (thread : ThreadId) :
    (∀ terminal : Terminal, terminal.loads = true →
      (tracking.active? thread connection.manager = none →
        ∀ saveAs session,
          Session.finishTask (query.start context tracking thread terminal) saveAs session =
            (fail (.trackingNotActive "as_tracking"), session)) ∧
      ∀ scope, tracking.active? thread connection.manager = some scope →
        ∀ task, query.start context tracking thread terminal = .ok task →
          ∀ {δ : Type} (world after : World δ) (outcome : Outcome),
            task.run world = (.ok outcome, after) →
            ∀ subject ∈ outcome.instances, ∃ rows between entity row key,
              task.Receives connection.schema query.base (some scope) rows world between ∧
              connection.schema.resolve query.base.name = .ok entity ∧ row ∈ rows ∧
              query.base.load row = .ok subject ∧ EntityKey.ofRecord entity row = .ok key ∧
              after.tracking.HasCaptured scope key ∧
              (key.foundUnder key = true →
                ((after.tracking.scopeAt scope).snapshot? key).isSome = true)) ∧
    ∀ projected : ProjectedQuery, projected.home = query.home → projected.clauses = query.clauses →
      ∀ type : EntityType,
        { projected with clauses := { projected.clauses with tracking := false } }.start context
          (.entities type) = projected.start context (.entities type) ∧
        ∀ task, projected.start context (.entities type) = .ok task →
          ∃ plan, projected.clauses.compile context (some projected.items) projected.grouping =
              .ok plan ∧
            ∀ {δ : Type} (world : World δ), (task.run world).2 = (world.send (.query plan)).2 := by
  refine ⟨fun terminal loads => ⟨fun inactive saveAs session => ?_, ?_⟩, ?_⟩
  · rw [start_of_inactive home tracked loads inactive]
    rfl
  · intro scope active task started δ world after outcome ran subject mem
    have loads := loads_of_start home tracked loads active started
    rcases loads.run_cases world with ⟨-, nothing⟩ | ⟨rows, between, entity, received, registered⟩
    · rw [nothing outcome (by rw [ran])] at mem
      cases mem
    · obtain ⟨instances, loaded, among⟩ := received.run_ok registered loads ran
      obtain ⟨row, here, key, hkey, read, captured⟩ := loadEach_mem loaded (among mem)
      exact ⟨rows, between, entity, row, key, received, registered, here, read, hkey, captured,
        captured.snapshot?_isSome⟩
  · -- entities of a projection are made without a scope, tracked or not
    intro projected _ _ type
    refine ⟨projected.start_unmarked context _, fun task started => ?_⟩
    exact ProjectedQuery.run_entities started

namespace Example

/-- The tracked query, projected to all columns. -/
def topicProjection : ProjectedQuery :=
  ⟨topicQuery.context, topicQuery.home, topicQuery.clauses, topic.baseItems, none⟩

/-- The database that answers the two rows, and no scope. -/
def untrackedWorld : World Script := { topicWorld with tracking := .empty }

/-- In a scope both topics are captured.  Without one the query fails, and still its projection
sends the plan and answers the topics. -/
theorem tracked_terminals_topics :
    ((topicTask.run topicWorld).2.tracking.HasCaptured 0 ⟨"Topic", .string "a"⟩ ∧
      (topicTask.run topicWorld).2.tracking.HasCaptured 0 ⟨"Topic", .string "b"⟩) ∧
    (∀ session, Session.finishTask (topicQuery.start topicContext .empty 0 .list) none session =
      (fail (.trackingNotActive "as_tracking"), session)) ∧
    ∃ task, topicProjection.start topicContext (.entities topicQuery.base) = .ok task ∧
      (task.run untrackedWorld).1 = .ok (.list topics) ∧
      (task.run untrackedWorld).2 = (untrackedWorld.send (.query topicPlan)).2 := by
  obtain ⟨entities, -⟩ :=
    @Query.tracked_terminals topicQuery _ rfl rfl topicContext topicWorld.tracking 0
  obtain ⟨unscoped, projections⟩ :=
    @Query.tracked_terminals topicQuery _ rfl rfl topicContext .empty 0
  have captured := (entities .list rfl).2 0 rfl topicTask rfl topicWorld _ (.list topics) rfl
  -- the key of a topic is read as it is, so it tells the rows apart
  have captures : ∀ subject ∈ topics, ∃ row ∈ topicRows, subject.record.head? = row.head? ∧
      ∃ key, EntityKey.ofRecord topic row = .ok key ∧
        (topicTask.run topicWorld).2.tracking.HasCaptured 0 key := by
    intro subject mem
    obtain ⟨rows, between, entity, row, key, ⟨answered⟩, registered, here, read, hkey, stored, -⟩ :=
      captured subject mem
    cases answered
    cases registered
    refine ⟨row, here, ?_, key, hkey, stored⟩
    rcases List.mem_pair.mp here with rfl | rfl <;> cases read <;> rfl
  refine ⟨⟨?_, ?_⟩, (unscoped .list rfl).1 rfl none, ?_⟩
  · obtain ⟨row, here, same, key, hkey, stored⟩ := captures _ List.mem_cons_self
    rcases List.mem_pair.mp here with rfl | rfl
    · cases hkey
      exact stored
    · simp at same
  · obtain ⟨row, here, same, key, hkey, stored⟩ :=
      captures _ (List.mem_cons_of_mem _ List.mem_cons_self)
    rcases List.mem_pair.mp here with rfl | rfl
    · simp at same
    · cases hkey
      exact stored
  · obtain ⟨plan, compiled, sends⟩ := (projections topicProjection rfl rfl topicQuery.base).2 _ rfl
    cases compiled
    exact ⟨_, rfl, rfl, sends untrackedWorld⟩

end Example

end TrackedQuery
