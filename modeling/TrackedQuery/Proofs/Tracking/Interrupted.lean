import TrackedQuery.Proofs.Tracking.Guards
import TrackedQuery.Proofs.Tracking.Task

/-!
# What an interrupted capture leaves behind

Records are captured one after the other, and an error ends this at the first record that is
refused.  What was captured until then is not taken back.  A row is captured before it is loaded, so
the refused record may itself be among what was captured.

## Strategy

* `Scope.captureAll` captures a list of snapshots, and `Tracking.Captures` says what this changes:
  the snapshots of the captured keys in one scope, and nothing else.
* A row is admitted (`Admits`) or refused (`Refuses`), and `loadEach` continues behind the one and
  stops at the other (`loadEach_of_admits`, `loadEach_of_refuses`).  By induction on the rows an
  error comes from the first refused row (`loadEach_of_error`), and likewise for instances that are
  captured without being loaded (`captureEach_of_error`).
* A task fails before it receives rows, or on its rows, or because there is none
  (`Query.failed_captures`).
-/

namespace TrackedQuery

variable {δ : Type}

/-! ## Capturing several snapshots -/

namespace Scope

/-- Captures one snapshot after the other. -/
def captureAll (scope : Scope) : List Snapshot → Scope
  | [] => scope
  | first :: rest => captureAll (scope.capture first) rest

@[simp] theorem captureAll_nil (scope : Scope) : scope.captureAll [] = scope := rfl

@[simp] theorem depth_captureAll (scope : Scope) (snapshots : List Snapshot) :
    (scope.captureAll snapshots).depth = scope.depth := by
  induction snapshots generalizing scope with
  | nil => rfl
  | cons first rest ih => exact ih (scope.capture first)

/-- A key leads to the last snapshot that was captured under it, or else where it led before. -/
theorem snapshot?_captureAll (scope : Scope) (snapshots : List Snapshot) (probe : EntityKey) :
    (scope.captureAll snapshots).snapshot? probe =
      (snapshots.reverse.find? fun snapshot => snapshot.key.foundUnder probe).or
        (scope.snapshot? probe) := by
  induction snapshots generalizing scope with
  | nil => rfl
  | cons first rest ih =>
      rw [captureAll, ih, snapshot?_capture, List.reverse_cons, List.find?_append, Option.or_assoc]
      congr 1
      by_cases own : first.key.foundUnder probe = true <;> simp [own]

private theorem mem_captureAll_of_ne {entry : Snapshot} {snapshots : List Snapshot}
    (others : ∀ snapshot ∈ snapshots, entry.key ≠ snapshot.key) (scope : Scope) :
    entry ∈ (scope.captureAll snapshots).snapshots ↔ entry ∈ scope.snapshots := by
  induction snapshots generalizing scope with
  | nil => rfl
  | cons first rest ih =>
      obtain ⟨apart, others⟩ := List.forall_mem_cons.mp others
      exact (ih others (scope.capture first)).trans (mem_insertSnapshot_of_ne apart _)

end Scope

namespace Tracking

/-- Captures one snapshot after the other in a scope. -/
def captureAll (tracking : Tracking) (scope : ScopeId) (snapshots : List Snapshot) : Tracking :=
  tracking.modifyScope scope (·.captureAll snapshots)

@[simp] theorem captureAll_nil (tracking : Tracking) (scope : ScopeId) :
    tracking.captureAll scope [] = tracking := by
  unfold captureAll modifyScope
  simp only [Scope.captureAll_nil]
  rw [show (fun scope : Scope => scope) = id from rfl, List.modify_id]

theorem captureAll_cons (tracking : Tracking) (scope : ScopeId) (first : Snapshot)
    (rest : List Snapshot) :
    tracking.captureAll scope (first :: rest) =
      (tracking.modifyScope scope (·.capture first)).captureAll scope rest := by
  unfold captureAll modifyScope
  rw [List.modify_modify_eq]
  rfl

/-- The second tracking is the first one after a scope captured snapshots, one after the other. -/
structure Captures (before after : Tracking) (scope : ScopeId) (captured : List Snapshot) : Prop
    where
  result : after = before.captureAll scope captured
  /-- No level is entered or released. -/
  levels : after.SameLevels before
  /-- No other scope changes. -/
  elsewhere : ∀ other, other ≠ scope → after.scopeAt other = before.scopeAt other
  /-- The snapshots of keys that are not captured are the same as before. -/
  others : ∀ entry : Snapshot, (∀ snapshot ∈ captured, entry.key ≠ snapshot.key) →
    (entry ∈ (after.scopeAt scope).snapshots ↔ entry ∈ (before.scopeAt scope).snapshots)
  /-- A key leads to the last snapshot that was captured under it, or else where it led before. -/
  found : ∀ probe, (after.scopeAt scope).snapshot? probe =
    (captured.reverse.find? fun snapshot => snapshot.key.foundUnder probe).or
      ((before.scopeAt scope).snapshot? probe)

/-- An open scope captures snapshots, and any scope captures none. -/
theorem captures_captureAll {tracking : Tracking} {scope : ScopeId} {captured : List Snapshot}
    (opened : captured ≠ [] → (tracking.scopeAt scope).depth ≠ 0) :
    tracking.Captures (tracking.captureAll scope captured) scope captured := by
  -- capturing nothing leaves the scope as it is, even if there is none
  have inside : (tracking.captureAll scope captured).scopeAt scope =
      (tracking.scopeAt scope).captureAll captured := by
    cases captured with
    | nil => rw [captureAll_nil, Scope.captureAll_nil]
    | cons first rest =>
        have known := known_of_depth (opened (List.cons_ne_nil first rest))
        exact scopeAt_modifyScope_self known _
  refine ⟨rfl, ⟨rfl, ?_⟩, ?_, ?_, ?_⟩
  · intro other
    exact depth_modifyScope tracking (fun stored => stored.depth_captureAll captured) scope other
  · intro other distinct
    exact scopeAt_modifyScope_of_ne tracking distinct _
  · intro entry others
    rw [inside]
    exact Scope.mem_captureAll_of_ne others _
  · intro probe
    rw [inside]
    exact Scope.snapshot?_captureAll _ captured probe

end Tracking

/-! ## Where loading stops -/

/-- The row of a snapshot is captured under its key and then loaded. -/
structure Admits (entity : Entity) (type : EntityType) (scope : Scope) (snapshot : Snapshot) : Prop
    where
  wide : snapshot.record.length = entity.columns.length
  opened : scope.depth ≠ 0
  key : EntityKey.ofRecord entity snapshot.record = .ok snapshot.key
  loaded : ∃ subject, type.load snapshot.record = .ok subject

/-- Why a row is not loaded, and what is captured of it nevertheless. -/
inductive Refuses (entity : Entity) (type : EntityType) (scope : Scope) (row : Row) :
    Error → List Snapshot → Prop where
  /-- The row does not have a value for each column. -/
  | width (narrow : row.length ≠ entity.columns.length) :
      Refuses entity type scope row
        (Cause.database (.rowWidth entity.columns.length type.name row.length)) []
  /-- The scope was released in the meantime. -/
  | closed (wide : row.length = entity.columns.length) (closed : scope.depth = 0) :
      Refuses entity type scope row (Cause.trackingNotActive "as_tracking") []
  /-- A value does not fit its column, which is noticed when the row was captured already. -/
  | unread {key : EntityKey} {error : Error} (wide : row.length = entity.columns.length)
      (opened : scope.depth ≠ 0) (hkey : EntityKey.ofRecord entity row = .ok key)
      (failed : type.load row = .error error) : Refuses entity type scope row error [⟨key, row⟩]

section LoadEach

variable {entity : Entity} {type : EntityType} {scope : ScopeId} {tracking after : Tracking}
  {rows : List Row} {error : Error}

/-- A row is admitted or refused. -/
theorem admits_or_refuses (entity : Entity) (type : EntityType) (scope : Scope) (row : Row) :
    (∃ key, Admits entity type scope ⟨key, row⟩) ∨
      ∃ error captured, Refuses entity type scope row error captured := by
  by_cases wide : row.length = entity.columns.length
  · by_cases closed : scope.depth = 0
    · exact .inr ⟨_, _, .closed wide closed⟩
    · obtain ⟨fields, hkey, -⟩ := EntityKey.ofRecord_of_wide wide
      cases hload : type.load row with
      | error error => exact .inr ⟨_, _, .unread wide closed hkey hload⟩
      | ok subject => exact .inl ⟨_, wide, closed, hkey, subject, hload⟩
  · exact .inr ⟨_, _, .width wide⟩

/-- Loading stops at a refused row. -/
theorem loadEach_of_refuses {row : Row} {last : List Snapshot}
    (refused : Refuses entity type (tracking.scopeAt scope) row error last) (rows : List Row) :
    loadEach entity type (some scope) tracking (row :: rows) =
      (.error error, tracking.captureAll scope last) := by
  cases refused with
  | width narrow => simp [loadEach, narrow, fail]
  | closed wide closed =>
      rw [loadEach_cons_of_closed closed, if_pos wide, Tracking.captureAll_nil]
      rfl
  | unread wide opened hkey failed =>
      simp [loadEach, wide, captureRow, hkey, bind, Except.bind, Tracking.capture, opened, failed,
        Tracking.captureAll_cons]

/-- Behind an admitted row, loading continues with what was captured. -/
theorem loadEach_of_admits {snapshot : Snapshot}
    (admitted : Admits entity type (tracking.scopeAt scope) snapshot) (rows : List Row) :
    ∃ subject, loadEach entity type (some scope) tracking (snapshot.record :: rows) =
      let later := loadEach entity type (some scope)
        (tracking.modifyScope scope (·.capture snapshot)) rows
      (later.1.map (subject :: ·), later.2) := by
  obtain ⟨subject, hload⟩ := admitted.loaded
  refine ⟨subject, ?_⟩
  simp [loadEach, admitted.wide, captureRow, admitted.key, bind, Except.bind, Tracking.capture,
    admitted.opened, hload]

/-- Rows are captured and loaded one after the other until one is refused. -/
def Interrupted (entity : Entity) (type : EntityType) (scope : ScopeId) (rows : List Row)
    (error : Error) (before after : Tracking) : Prop :=
  ∃ captured refused later last,
    rows = captured.map Snapshot.record ++ refused :: later ∧
    (∀ snapshot ∈ captured, Admits entity type (before.scopeAt scope) snapshot) ∧
    Refuses entity type (before.scopeAt scope) refused error last ∧
    before.Captures after scope (captured ++ last)

/-- Whether a row is admitted depends on the depth of the scope alone. -/
theorem Admits.of_depth {left right : Scope} (depth : left.depth = right.depth)
    {snapshot : Snapshot} (admitted : Admits entity type left snapshot) :
    Admits entity type right snapshot :=
  { admitted with opened := depth ▸ admitted.opened }

theorem Refuses.of_depth {left right : Scope} (depth : left.depth = right.depth) {row : Row}
    {captured : List Snapshot} (refused : Refuses entity type left row error captured) :
    Refuses entity type right row error captured := by
  cases refused with
  | width narrow => exact .width narrow
  | closed wide closed => exact .closed wide (depth ▸ closed)
  | unread wide opened hkey failed => exact .unread wide (depth ▸ opened) hkey failed

/-- What a refused row leaves behind was captured in an open scope. -/
theorem Refuses.opened {stored : Scope} {row : Row} {last : List Snapshot}
    (refused : Refuses entity type stored row error last) (leaves : last ≠ []) :
    stored.depth ≠ 0 := by
  cases refused with
  | width | closed => exact absurd rfl leaves
  | unread _ opened => exact opened

/-- Loading that fails was interrupted. -/
theorem loadEach_of_error
    (failed : loadEach entity type (some scope) tracking rows = (.error error, after)) :
    Interrupted entity type scope rows error tracking after := by
  -- the scope keeps its depth while rows are captured, so every row is judged as the first one is
  have stops : ∃ captured refused later last,
      rows = captured.map Snapshot.record ++ refused :: later ∧
      (∀ snapshot ∈ captured, Admits entity type (tracking.scopeAt scope) snapshot) ∧
      Refuses entity type (tracking.scopeAt scope) refused error last ∧
      after = tracking.captureAll scope (captured ++ last) := by
    induction rows generalizing tracking with
    | nil => cases failed
    | cons row rows ih =>
        rcases admits_or_refuses entity type (tracking.scopeAt scope) row with
          ⟨key, admitted⟩ | ⟨reason, last, refused⟩
        · obtain ⟨subject, continues⟩ := loadEach_of_admits admitted rows
          have ended := continues.symm.trans failed
          obtain ⟨hmap, hafter⟩ := Prod.mk.inj ended
          obtain ⟨captured, refused, later, last, split, admits, refuses, result⟩ :=
            ih (Prod.ext (Result.map_eq_error.mp hmap) hafter)
          have depth := (tracking.sameLevels_capture scope ⟨key, row⟩).2 scope
          refine ⟨⟨key, row⟩ :: captured, refused, later, last, ?_, ?_, ?_, ?_⟩
          · rw [split]
            rfl
          · rintro snapshot mem
            rcases List.mem_cons.mp mem with rfl | mem
            · exact admitted
            · exact (admits snapshot mem).of_depth depth
          · exact refuses.of_depth depth
          · rw [result, List.cons_append, Tracking.captureAll_cons]
        · have ended := (loadEach_of_refuses refused rows).symm.trans failed
          obtain ⟨herror, hafter⟩ := Prod.mk.inj ended
          cases herror
          exact ⟨[], row, rows, last, rfl, by simp, refused, hafter.symm⟩
  obtain ⟨captured, refused, later, last, split, admits, refuses, rfl⟩ := stops
  refine ⟨captured, refused, later, last, split, admits, refuses,
    Tracking.captures_captureAll fun leaves => ?_⟩
  cases captured with
  | nil => exact refuses.opened leaves
  | cons first rest => exact (admits first List.mem_cons_self).opened

end LoadEach

/-! ## Capturing instances -/

/-- Instances are captured one after the other until the key of one cannot be read. -/
theorem Connection.captureEach_of_error {entity : Entity} {scope : ScopeId}
    {tracking after : Tracking} {subjects : List Instance} {error : Error}
    (opened : (tracking.scopeAt scope).depth ≠ 0)
    (failed : captureEach entity scope tracking subjects = (.error error, after)) :
    ∃ captured refused later,
      subjects.map Instance.record = captured.map Snapshot.record ++ refused :: later ∧
      (∀ snapshot ∈ captured, EntityKey.ofRecord entity snapshot.record = .ok snapshot.key) ∧
      EntityKey.ofRecord entity refused = .error error ∧
      tracking.Captures after scope captured := by
  -- by induction on the subjects: those before the refused one were captured
  have stops : ∃ captured refused later,
      subjects.map Instance.record = captured.map Snapshot.record ++ refused :: later ∧
      (∀ snapshot ∈ captured, EntityKey.ofRecord entity snapshot.record = .ok snapshot.key) ∧
      EntityKey.ofRecord entity refused = .error error ∧
      after = tracking.captureAll scope captured := by
    induction subjects generalizing tracking with
    | nil => cases failed
    | cons subject subjects ih =>
        cases hkey : EntityKey.ofRecord entity subject.record with
        | error reason =>
            simp only [captureEach, hkey, bind, Except.bind, Prod.mk.injEq] at failed
            obtain ⟨herror, rfl⟩ := failed
            cases herror
            refine ⟨[], subject.record, subjects.map Instance.record, rfl, by simp, hkey, ?_⟩
            rw [Tracking.captureAll_nil]
        | ok key =>
            simp only [captureEach, hkey, bind, Except.bind, Tracking.capture, if_neg opened]
              at failed
            have still := (tracking.sameLevels_capture scope ⟨key, subject.record⟩).2 scope
            obtain ⟨captured, refused, later, split, keys, refuses, result⟩ :=
              ih (still ▸ opened) failed
            refine ⟨⟨key, subject.record⟩ :: captured, refused, later, ?_, ?_, refuses, ?_⟩
            · rw [List.map_cons, split]
              rfl
            · intro snapshot mem
              rcases List.mem_cons.mp mem with rfl | mem
              · exact hkey
              · exact keys snapshot mem
            · rw [result, Tracking.captureAll_cons]
  obtain ⟨captured, refused, later, split, keys, refuses, rfl⟩ := stops
  exact ⟨captured, refused, later, split, keys, refuses,
    Tracking.captures_captureAll fun _ => opened⟩

/-- Capturing instances fails before the first one, or at the first one without a key. -/
theorem Connection.addTrackingAll_of_error {connection : Connection} {tracking after : Tracking}
    {thread : ThreadId} {name : String} {subjects : List Instance} {error : Error}
    (failed : connection.addTrackingAll tracking thread name subjects = (.error error, after)) :
    (after = tracking ∧ (tracking.active? thread connection.manager = none ∨
      connection.schema.resolve name = .error error)) ∨
    ∃ scope entity captured refused later,
      tracking.active? thread connection.manager = some scope ∧
      connection.schema.resolve name = .ok entity ∧
      subjects.map Instance.record = captured.map Snapshot.record ++ refused :: later ∧
      (∀ snapshot ∈ captured, EntityKey.ofRecord entity snapshot.record = .ok snapshot.key) ∧
      EntityKey.ofRecord entity refused = .error error ∧
      tracking.Captures after scope captured := by
  -- without a scope, or without the entity, nothing is captured
  cases active : tracking.active? thread connection.manager with
  | none =>
      simp only [addTrackingAll, Tracking.requireActive, active, fail, bind, Except.bind,
        Prod.mk.injEq] at failed
      exact .inl ⟨failed.2.symm, .inl rfl⟩
  | some scope =>
      have opened : (tracking.scopeAt scope).depth ≠ 0 := by
        have positive := (Option.filter_eq_some_iff.mp active).2
        have := of_decide_eq_true positive
        omega
      cases registered : connection.schema.resolve name with
      | error reason =>
          simp only [addTrackingAll, Tracking.requireActive, active, registered, bind, Except.bind,
            Prod.mk.injEq, Except.error.injEq] at failed
          obtain ⟨rfl, rfl⟩ := failed
          exact .inl ⟨rfl, .inr rfl⟩
      | ok entity =>
          simp only [addTrackingAll, Tracking.requireActive, active, registered, bind, Except.bind,
            pure, Except.pure] at failed
          obtain ⟨captured, refused, later, interrupted⟩ := captureEach_of_error opened failed
          exact .inr ⟨scope, entity, captured, refused, later, rfl, rfl, interrupted⟩

/-! ## Tasks that fail -/

namespace Task

variable {schema : Schema} {type : EntityType} {entity : Entity} {scope : Option ScopeId}
  {rows : List Row} {world between after : World δ} {task : Task} {error : Error}

/-- A task that received rows fails on them, or on what is made of the instances. -/
theorem Receives.run_of_error (received : Receives schema type scope rows world between task)
    (registered : schema.resolve type.name = .ok entity)
    (failed : task.run world = (.error error, after)) :
    ∃ answer, loadEach entity type scope world.tracking rows = (answer, after.tracking) ∧
      (answer = .error error ∨ ∃ plan finish instances,
        task = .load schema type plan scope finish ∧ answer = .ok instances ∧
          finish instances = .error error) := by
  have kept := received.tracking
  refine ⟨(loadEach entity type scope world.tracking rows).1, ?_⟩
  cases received with
  | @load plan finish answered =>
      have ran := (bind_eq (loadPlan_eq registered answered)).symm.trans failed
      obtain ⟨made, rfl⟩ := Prod.mk.inj ran
      rw [kept] at made ⊢
      refine ⟨rfl, ?_⟩
      rcases Result.bind_eq_error.mp made with refused | ⟨instances, loaded, finished⟩
      · exact .inl refused
      · exact .inr ⟨plan, finish, instances, rfl, loaded, finished⟩
  | @page plans counted others hcount answered =>
      have ran := ((bind_eq hcount).trans (bind_eq (loadPlan_eq registered answered))).symm.trans
        failed
      obtain ⟨made, rfl⟩ := Prod.mk.inj ran
      rw [kept] at made ⊢
      -- making a page of the instances cannot fail
      exact ⟨rfl, .inl (Result.map_eq_error.mp made)⟩

/-- A task that counts rows changes no scope. -/
theorem run_count_tracking (plan : Plan) (finish : Nat → Outcome) (world : World δ) :
    ((Task.count plan finish).run world).2.tracking = world.tracking := rfl

end Task

namespace Query

variable {query : Query} {connection : Connection} {context : Context} {tracking : Tracking}
  {thread : ThreadId} {terminal : Terminal} {task : Task}

/-- What is made of the instances of a query fails at most because there is none. -/
theorem finish_of_start {schema : Schema} {type : EntityType} {plan : Plan}
    {scope : Option ScopeId} {finish : List Instance → Result Outcome}
    (started : query.start context tracking thread terminal =
      .ok (.load schema type plan scope finish))
    {instances : List Instance} {error : Error} (failed : finish instances = .error error) :
    instances = [] := by
  have made : ∀ {clauses : Clauses} {make : List Instance → Result Outcome},
      query.startLoad clauses context tracking thread make =
        .ok (.load schema type plan scope finish) → finish = make := by
    intro clauses make started
    obtain ⟨home, -, started⟩ := Result.bind_eq_ok.mp started
    obtain ⟨noted, -, started⟩ := Result.bind_eq_ok.mp started
    obtain ⟨compiled, -, started⟩ := Result.bind_eq_ok.mp started
    cases started
    rfl
  -- only `first` refuses what was loaded, and only if it is nothing
  cases terminal with
  | list =>
      rw [made started] at failed
      cases failed
  | first? =>
      rw [made started] at failed
      cases failed
  | first text =>
      rw [made started] at failed
      cases instances with
      | nil => rfl
      | cons found rest => cases failed
  | count | any =>
      obtain ⟨home, -, started⟩ := Result.bind_eq_ok.mp started
      obtain ⟨compiled, -, started⟩ := Result.bind_eq_ok.mp started
      cases started
  | page index size =>
      obtain ⟨home, -, started⟩ := Result.bind_eq_ok.mp started
      obtain ⟨noted, -, started⟩ := Result.bind_eq_ok.mp started
      obtain ⟨compiled, -, started⟩ := Result.bind_eq_ok.mp started
      cases started

/-- A started query that fails has captured nothing, or was interrupted. -/
theorem run_of_error (home : query.home = some connection)
    (tracked : query.clauses.tracking = true)
    (started : query.start context tracking thread terminal = .ok task) {world after : World δ}
    {error : Error} (failed : task.run world = (.error error, after)) :
    (after.tracking = world.tracking ∧ ∀ scope row rows between entity,
      task.Receives connection.schema query.base scope (row :: rows) world between →
        connection.schema.resolve query.base.name ≠ .ok entity) ∨
    ∃ scope rows between entity, tracking.active? thread connection.manager = some scope ∧
      task.Receives connection.schema query.base (some scope) rows world between ∧
      connection.schema.resolve query.base.name = .ok entity ∧
      Interrupted entity query.base scope rows error world.tracking after.tracking := by
  by_cases loads : terminal.loads = true
  · cases active : tracking.active? thread connection.manager with
    | none =>
        rw [start_of_inactive home tracked loads active] at started
        cases started
    | some scope =>
        have ready := loads_of_start home tracked loads active started
        by_cases answered : ∃ row rows between entity,
            task.Receives connection.schema query.base (some scope) (row :: rows) world between ∧
              connection.schema.resolve query.base.name = .ok entity
        · obtain ⟨row, rows, between, entity, received, registered⟩ := answered
          refine .inr ⟨scope, row :: rows, between, entity, rfl, received, registered, ?_⟩
          obtain ⟨answer, loaded, refused | ⟨plan, finish, instances, rfl, rfl, finished⟩⟩ :=
            received.run_of_error registered failed
          · rw [refused] at loaded
            exact loadEach_of_error loaded
          · -- a row was loaded, so there is an instance to make something of
            have nothing := finish_of_start started finished
            have length := (loadEach_getElem? loaded).1
            rw [nothing] at length
            cases length
        · refine .inl ⟨?_, fun other row rows between entity received registered => ?_⟩
          · rcases ready.run_cases world with
              ⟨kept, -⟩ | ⟨rows, between, entity, received, registered⟩
            · rw [failed] at kept
              exact kept
            · cases rows with
              | nil =>
                  obtain ⟨answer, loaded, -⟩ := received.run_of_error registered failed
                  exact (Prod.mk.inj loaded).2.symm
              | cons row rows =>
                  exact absurd ⟨row, rows, between, entity, received, registered⟩ answered
          · have same : other = some scope := by
              cases ready <;> cases received <;> rfl
            subst same
            exact answered ⟨row, rows, between, entity, received, registered⟩
  · have counts : ∃ plan finish, task = .count plan finish := by
      cases terminal with
      | list | first? | first _ | page _ _ => exact absurd rfl loads
      | count | any =>
          obtain ⟨home, -, started⟩ := Result.bind_eq_ok.mp started
          obtain ⟨compiled, -, started⟩ := Result.bind_eq_ok.mp started
          cases started
          exact ⟨_, _, rfl⟩
    obtain ⟨plan, finish, rfl⟩ := counts
    have kept := Task.run_count_tracking plan finish world
    rw [failed] at kept
    refine .inl ⟨kept, fun scope row rows between entity received => ?_⟩
    cases received

/-- What failed operations capture.  A tracked query that cannot be started leaves everything as it
was.  One that fails later has captured nothing, if it was answered no rows, and else the rows in
front of the one that is refused, and this one too if only its values are refused.  Instances are
captured in front of the first one without a key.  Projections capture nothing. -/
theorem failed_captures (home : query.home = some connection)
    (tracked : query.clauses.tracking = true) (context : Context) (tracking : Tracking)
    (thread : ThreadId) :
    (∀ terminal : Terminal,
      (∀ error, query.start context tracking thread terminal = .error error →
        ∀ saveAs session,
          Session.finishTask (query.start context tracking thread terminal) saveAs session =
            (.error error, session)) ∧
      ∀ task, query.start context tracking thread terminal = .ok task →
        ∀ {δ : Type} (world after : World δ) (error : Error),
          task.run world = (.error error, after) →
          (after.tracking = world.tracking ∧ ∀ scope row rows between entity,
            task.Receives connection.schema query.base scope (row :: rows) world between →
              connection.schema.resolve query.base.name ≠ .ok entity) ∨
          ∃ scope rows between entity, tracking.active? thread connection.manager = some scope ∧
            task.Receives connection.schema query.base (some scope) rows world between ∧
            connection.schema.resolve query.base.name = .ok entity ∧
            Interrupted entity query.base scope rows error world.tracking after.tracking) ∧
    (∀ projected : ProjectedQuery, ∀ terminal task,
      projected.start context terminal = .ok task →
        ∀ {δ : Type} (world : World δ), (task.run world).2.tracking = world.tracking) ∧
    ∀ name subjects error after,
      connection.addTrackingAll tracking thread name subjects = (.error error, after) →
      (after = tracking ∧ (tracking.active? thread connection.manager = none ∨
        connection.schema.resolve name = .error error)) ∨
      ∃ scope entity captured refused later,
        tracking.active? thread connection.manager = some scope ∧
        connection.schema.resolve name = .ok entity ∧
        subjects.map Instance.record = captured.map Snapshot.record ++ refused :: later ∧
        (∀ snapshot ∈ captured, EntityKey.ofRecord entity snapshot.record = .ok snapshot.key) ∧
        EntityKey.ofRecord entity refused = .error error ∧
        tracking.Captures after scope captured := by
  refine ⟨fun terminal => ⟨?_, ?_⟩, ?_, ?_⟩
  · intro error refused saveAs session
    rw [refused]
    rfl
  · intro task started δ world after error failed
    exact run_of_error home tracked started failed
  · -- a projection has no entities to capture
    intro projected terminal task started δ world
    cases terminal with
    | rows =>
        obtain ⟨home, -, started⟩ := Result.bind_eq_ok.mp started
        obtain ⟨compiled, -, started⟩ := Result.bind_eq_ok.mp started
        cases started
        rfl
    | entities type =>
        obtain ⟨plan, -, sends⟩ := ProjectedQuery.run_entities started
        rw [sends]
        rfl
  · intro name subjects error after failed
    exact Connection.addTrackingAll_of_error failed

end Query

namespace Example

/-- The first of the topics, and a row that is too short to be one. -/
def brokenRows : List Row := [[.string "a", .string "Proofs", .int32 5, .null], [.string "b"]]

/-- A thread in a tracking scope, and a database that answers these rows. -/
def brokenWorld : World Script := { topicWorld with state := ⟨[.ok (.rows brokenRows)], []⟩ }

/-- The tracked query fails on the short row, and the topic in front of it is captured. -/
theorem failed_captures_topics :
    (topicTask.run brokenWorld).1 = fail (.database (.rowWidth 4 "Topic" 1)) ∧
      Interrupted topic topicQuery.base 0 brokenRows
        (Cause.database (.rowWidth 4 "Topic" 1)) brokenWorld.tracking
        (topicTask.run brokenWorld).2.tracking := by
  refine ⟨rfl, ?_⟩
  obtain ⟨terminals, -⟩ :=
    @Query.failed_captures topicQuery _ rfl rfl topicContext topicWorld.tracking 0
  have failed : topicTask.run brokenWorld =
      (.error (Cause.database (.rowWidth 4 "Topic" 1)), (topicTask.run brokenWorld).2) := rfl
  rcases (terminals .list).2 topicTask rfl brokenWorld _ _ failed with
    ⟨-, unanswered⟩ | ⟨scope, rows, between, entity, active, received, registered, interrupted⟩
  · exact absurd rfl (unanswered (some 0) _ _ _ topic (.load rfl))
  · cases active
    cases registered
    cases received with
    | load answered =>
        cases answered
        exact interrupted

/-- So a failed query can change what a scope has captured. -/
theorem not_failed_unchanged :
    ¬ ∀ (world after : World Script) (error : Error),
      topicTask.run world = (.error error, after) →
        (after.tracking.scopeAt 0).snapshots = (world.tracking.scopeAt 0).snapshots := by
  intro unchanged
  have captured : ((topicTask.run brokenWorld).2.tracking.scopeAt 0).snapshots =
      [⟨proofsKey, proofsRow⟩] := rfl
  have failed : topicTask.run brokenWorld =
      (.error (Cause.database (.rowWidth 4 "Topic" 1)), (topicTask.run brokenWorld).2) := rfl
  have nothing := unchanged brokenWorld _ _ failed
  rw [captured] at nothing
  cases nothing

end Example

end TrackedQuery
