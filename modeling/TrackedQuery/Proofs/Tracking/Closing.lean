import TrackedQuery.Proofs.Tracking.Guards
import TrackedQuery.Proofs.Tracking.Task

/-!
# What is left behind in a closed scope

Guards, loads and updates keep the scope that they were made in.  When the scope is closed, it
depends on the thread that closes it whether they still matter.

The thread that is in the scope forgets it.  No thread ever enters it again, and whatever was left
behind is without effect (`Abandoned.ignores`).  Another thread has nothing to forget, so the first
one enters the same scope again, and what was left behind takes effect there.

## Strategy

`Abandoned` is what the closing step establishes on the thread that is in the scope
(`Step.closes`): the scope is at depth zero, and a thread that is still attached to it is about to
forget it, and hence does nothing before.  Every step keeps this (`Abandoned.step`), because a
thread enters a scope only if it is attached to it and free to look it up.
-/

namespace TrackedQuery

/-- The thread that an event happens on, if it matters which. -/
def Event.thread? : Event → Option ThreadId
  | .lookUp thread _ _ | .raise thread | .release thread _ | .dropGuard thread _ | .forget thread =>
      some thread
  | .capture _ _ _ | .refresh _ _ _ => none

/-- A thread that is in a closed scope enters it again.  Rows are captured there from then on, and a
guard of the scope releases it. -/
theorem Tracking.enter_again {tracking : Tracking} {thread : ThreadId} {manager : ManagerId}
    {scope : ScopeId} (current : tracking.current? thread manager = some scope)
    (known : scope < tracking.scopes.length) (closed : (tracking.scopeAt scope).depth = 0) :
    ∃ reentered, tracking.enter thread manager = (scope, reentered) ∧
      (reentered.scopeAt scope).depth = 1 ∧
      (∀ key record operation, ∃ captured,
        reentered.capture scope key record operation = .ok captured ∧
          captured.HasCaptured scope key) ∧
      ∀ dropper, ((reentered.dropGuard dropper ⟨manager, scope⟩).scopeAt scope).depth = 0 := by
  have opened : ((tracking.modifyScope scope Scope.enter).scopeAt scope).depth = 1 := by
    rw [scopeAt_modifyScope_self known, Scope.depth_enter, closed]
  have stillKnown : scope < (tracking.modifyScope scope Scope.enter).scopes.length := by
    rw [length_modifyScope]
    exact known
  refine ⟨tracking.modifyScope scope Scope.enter, ?_, opened, ?_, ?_⟩
  · rw [enter, current]
  · intro key record operation
    refine ⟨_, by rw [capture, if_neg (by rw [opened]; exact Nat.one_ne_zero)], ?_⟩
    exact hasCaptured_capture stillKnown (.inr rfl)
  · intro dropper
    rw [dropGuard, releaseScope_eq, if_pos opened, scopeAt_detach, depth_lower_self, opened]

/-! ## Closing a scope -/

namespace Threads

variable {scope : ScopeId} {event : Event} {before after threads : Threads}

/-- The step that closes a scope releases its last level; the thread that does so has to forget it
next. -/
theorem Step.closes (step : Threads.Step event before after) (sound : before.Sound)
    (opened : (before.tracking.scopeAt scope).depth ≠ 0)
    (closed : (after.tracking.scopeAt scope).depth = 0) :
    ∃ thread manager, event.thread? = some thread ∧
      after.tracking.attachments = before.tracking.attachments ∧
      after.halfway thread = some (.leaving manager scope) ∧
      ∀ attachment ∈ before.tracking.attachments, attachment.scope = scope →
        attachment.manager = manager := by
  -- both ways of lowering a scope come down to this: its last level was taken
  have lowered : ∀ {threads : Threads} {thread : ThreadId} {manager : ManagerId} {other : ScopeId},
      threads.tracking = before.tracking →
      ((threads.lower thread manager other).tracking.scopeAt scope).depth = 0 →
      other = scope ∧
        (threads.lower thread manager other).halfway thread = some (.leaving manager scope) := by
    intro threads thread manager other same closed
    by_cases distinct : scope = other
    · subst distinct
      have last : (threads.tracking.scopeAt scope).depth = 1 := by
        have := threads.tracking.depth_lower_self scope
        simp only [Threads.lower] at closed
        rw [same] at *
        omega
      exact ⟨rfl, by simp [Threads.lower, last]⟩
    · simp only [Threads.lower, Tracking.scopeAt_lower_of_ne _ distinct, same] at closed
      exact absurd closed opened
  -- only a release or a dropped guard can take the last level
  cases step with
  | lookUp => exact absurd (by rwa [Tracking.scopeAt_lookUp] at closed) opened
  | @raise _ _ _ entered =>
      refine absurd closed ?_
      by_cases same : scope = entered
      · subst same
        rw [Tracking.scopeAt_modifyScope_self (Tracking.known_of_depth opened)]
        simp
      · rwa [Tracking.scopeAt_modifyScope_of_ne _ same]
  | @release _ thread manager other _ current =>
      obtain ⟨rfl, leaving⟩ := lowered rfl closed
      refine ⟨thread, manager, rfl, Tracking.attachments_lower _ _, leaving, ?_⟩
      intro attachment here same
      rw [sound.alone _ here _ (Tracking.mem_of_current? current) (.inr same)]
  | releaseNothing => exact absurd closed opened
  | @dropGuard _ thread held _ undropped =>
      obtain ⟨rfl, leaving⟩ := lowered rfl closed
      refine ⟨thread, held.guard.manager, rfl, Tracking.attachments_lower _ _, leaving, ?_⟩
      intro attachment here same
      rw [sound.guardAttached held undropped attachment here same]
  | forget => exact absurd closed opened
  | capture captured =>
      exact absurd ((Tracking.depth_capture captured scope).symm.trans closed) opened
  | refuse => exact absurd closed opened
  | refresh =>
      exact absurd ((Tracking.depth_refresh _ _ _ _ scope).symm.trans closed) opened

/-! ## Scopes that are never entered again -/

/-- A closed scope that every thread attached to it is about to forget. -/
structure Abandoned (threads : Threads) (scope : ScopeId) : Prop where
  known : scope < threads.tracking.scopes.length
  closed : (threads.tracking.scopeAt scope).depth = 0
  leaving : ∀ attachment ∈ threads.tracking.attachments, attachment.scope = scope →
    threads.halfway attachment.thread = some (.leaving attachment.manager scope)

/-- A scope is abandoned when the thread that is in it closes it. -/
theorem Abandoned.of_step (step : Threads.Step event before after) (sound : before.Sound)
    (opened : (before.tracking.scopeAt scope).depth ≠ 0)
    (closed : (after.tracking.scopeAt scope).depth = 0) {attachment : Attachment}
    (attached : attachment ∈ before.tracking.attachments) (same : attachment.scope = scope)
    (own : event.thread? = some attachment.thread) : after.Abandoned scope := by
  obtain ⟨thread, manager, hthread, attachments, leaving, managers⟩ :=
    step.closes sound opened closed
  refine ⟨?_, closed, ?_⟩
  · rw [← same]
    exact (sound.step step).known attachment (by rwa [attachments])
  · intro other here hscope
    rw [attachments] at here
    obtain rfl := sound.alone _ here _ attached (.inr (hscope.trans same.symm))
    rw [managers other here hscope, Option.some.inj (own.symm.trans hthread)]
    exact leaving

namespace Abandoned

/-- A thread that is free is not attached to the scope. -/
theorem apart (abandoned : threads.Abandoned scope) {thread : ThreadId}
    (free : threads.halfway thread = none) {attachment : Attachment}
    (here : attachment ∈ threads.tracking.attachments) (same : attachment.scope = scope) :
    attachment.thread ≠ thread := by
  rintro rfl
  rw [abandoned.leaving attachment here same] at free
  cases free

/-- What a free thread does to itself does not concern the scope. -/
theorem update (abandoned : threads.Abandoned scope) {thread : ThreadId}
    (free : threads.halfway thread = none) (doing : Option Halfway) {attachment : Attachment}
    (here : attachment ∈ threads.tracking.attachments) (same : attachment.scope = scope) :
    Function.update threads.halfway thread doing attachment.thread =
      some (.leaving attachment.manager scope) := by
  rw [Function.update_of_ne (abandoned.apart free here same)]
  exact abandoned.leaving attachment here same

theorem lower (abandoned : threads.Abandoned scope) {thread : ThreadId}
    (free : threads.halfway thread = none) (manager : ManagerId) (other : ScopeId) :
    (threads.lower thread manager other).Abandoned scope := by
  refine ⟨?_, ?_, ?_⟩
  · show scope < (threads.tracking.lower other).scopes.length
    rw [Tracking.length_lower]
    exact abandoned.known
  · show ((threads.tracking.lower other).scopeAt scope).depth = 0
    by_cases same : scope = other
    · rw [← same, Tracking.depth_lower_self, abandoned.closed]
    · rw [Tracking.scopeAt_lower_of_ne _ same, abandoned.closed]
  · -- the only attachment that could name the scope is that of a thread on its way out
    intro attachment here same
    simp only [Threads.lower, Tracking.attachments_lower] at here ⊢
    split
    · exact abandoned.update free _ here same
    · exact abandoned.leaving attachment here same

/-- Every step keeps a scope abandoned. -/
theorem step (abandoned : before.Abandoned scope) (sound : before.Sound)
    (step : Threads.Step event before after) : after.Abandoned scope := by
  cases step with
  | @lookUp _ thread manager guarded free =>
      have outside : ∀ attachment ∈ (before.tracking.lookUp thread manager).2.attachments,
          attachment.scope = scope → attachment ∈ before.tracking.attachments := by
        intro attachment here same
        unfold Tracking.lookUp at here
        cases current : before.tracking.current? thread manager with
        | some _ => simpa [current] using here
        | none =>
            -- a fresh scope is another one
            rw [current] at here
            rcases List.mem_cons.mp here with rfl | here
            · exact absurd same (Nat.ne_of_gt abandoned.known)
            · exact here
      refine ⟨?_, ?_, fun attachment here same => ?_⟩
      · exact Nat.lt_of_lt_of_le abandoned.known (Tracking.length_le_lookUp _ _ _)
      · rw [Tracking.scopeAt_lookUp]
        exact abandoned.closed
      · exact abandoned.update free _ (outside attachment here same) same
  | @raise _ thread manager entered guarded found =>
      have here := sound.entering found
      have other : entered ≠ scope := by
        rintro rfl
        have leaves := abandoned.leaving _ here rfl
        rw [found] at leaves
        cases leaves
      refine ⟨?_, ?_, fun attachment here same => ?_⟩
      · rw [Tracking.length_modifyScope]
        exact abandoned.known
      · rw [Tracking.scopeAt_modifyScope_of_ne _ (Ne.symm other)]
        exact abandoned.closed
      · have leaves := abandoned.leaving attachment here same
        have elsewhere : attachment.thread ≠ thread := by
          rintro rfl
          rw [found] at leaves
          cases leaves
        simpa [elsewhere] using leaves
  | release free current => exact abandoned.lower free _ _
  | releaseNothing => exact abandoned
  | @dropGuard _ thread held free undropped =>
      have others : Threads.Abandoned { before with held := before.held.erase held } scope :=
        ⟨abandoned.known, abandoned.closed, abandoned.leaving⟩
      exact others.lower free _ _
  | @forget _ thread manager left last =>
      refine ⟨abandoned.known, abandoned.closed, fun attachment here same => ?_⟩
      obtain ⟨here, stays⟩ := Tracking.mem_detach.mp here
      have leaves := abandoned.leaving attachment here same
      have elsewhere : attachment.thread ≠ thread := by
        rintro rfl
        rw [last] at leaves
        cases leaves
        exact stays (by rw [← same])
      simpa [elsewhere] using leaves
  | capture captured =>
      obtain ⟨-, rfl⟩ := Tracking.capture_eq_ok captured
      refine ⟨?_, (Tracking.depth_capture captured scope).trans abandoned.closed, abandoned.leaving⟩
      rw [Tracking.length_modifyScope]
      exact abandoned.known
  | refuse => exact abandoned
  | refresh =>
      refine ⟨?_, (Tracking.depth_refresh _ _ _ _ scope).trans abandoned.closed, abandoned.leaving⟩
      rw [Tracking.refresh, Tracking.length_modifyScope]
      exact abandoned.known

theorem run {events : List Event} (abandoned : before.Abandoned scope) (sound : before.Sound)
    (run : Threads.Run before events after) : after.Abandoned scope := by
  induction run with
  | done => exact abandoned
  | step first _ ih => exact ih (abandoned.step sound first) (sound.step first)

end Abandoned

/-! ## What was left behind -/

/-- What was left behind in a scope is without effect: nothing that refers to the scope changes the
scopes at all, a load that is answered a row fails, and no thread enters the scope again. -/
structure Ignores (threads : Threads) (scope : ScopeId) : Prop where
  closed : (threads.tracking.scopeAt scope).depth = 0
  empty : (threads.tracking.scopeAt scope).snapshots = []
  /-- A thread that enters a scope enters another one. -/
  entered : ∀ thread manager, threads.halfway thread = none →
    (threads.tracking.enter thread manager).1 ≠ scope
  guards : ∀ thread manager, threads.tracking.dropGuard thread ⟨manager, scope⟩ = threads.tracking
  captures : ∀ key record operation, threads.tracking.capture scope key record operation =
    fail (.trackingNotActive operation)
  refreshes : ∀ key record, threads.tracking.refresh scope key record = threads.tracking
  /-- A load that noted the scope captures nothing.  A first row of full width is refused. -/
  loads : ∀ {δ : Type} (world : World δ) (schema : Schema) (type : EntityType) (task : Task),
    world.tracking = threads.tracking → task.Loads schema type (some scope) →
    (task.run world).2.tracking = threads.tracking ∧
      ∀ row rest between entity,
        task.Receives schema type (some scope) (row :: rest) world between →
        schema.resolve type.name = .ok entity →
        (task.run world).1 =
          fail (if row.length = entity.columns.length then .trackingNotActive "as_tracking"
            else .database (.rowWidth entity.columns.length type.name row.length))
  /-- An update that noted the scope refreshes nothing. -/
  updates : ∀ {δ : Type} (world : World δ) (update : PreparedUpdate),
    world.tracking = threads.tracking → update.scope = some scope →
      (update.execute world).2.tracking = threads.tracking

/-- Nothing that was left behind in an abandoned scope has an effect. -/
theorem Abandoned.ignores (abandoned : threads.Abandoned scope) (sound : threads.Sound) :
    threads.Ignores scope := by
  -- a scope of depth zero has no snapshots, and nothing is captured into it
  have empty := sound.empty scope abandoned.closed
  have refreshes : ∀ key record, threads.tracking.refresh scope key record = threads.tracking :=
    Tracking.refresh_of_empty empty
  refine ⟨abandoned.closed, empty, ?_, ?_, ?_, refreshes, ?_, ?_⟩
  · intro thread manager free
    rw [Tracking.enter_eq, Tracking.lookUp]
    cases current : threads.tracking.current? thread manager with
    | none => exact Nat.ne_of_gt abandoned.known
    | some other =>
        rintro rfl
        exact abandoned.apart free (Tracking.mem_of_current? current) rfl rfl
  · intro thread manager
    rw [Tracking.dropGuard, Tracking.releaseScope, abandoned.closed]
  · intro key record operation
    rw [Tracking.capture, if_pos abandoned.closed]
  · intro δ world schema type task current loads
    have closed : (world.tracking.scopeAt scope).depth = 0 := by
      rw [current]
      exact abandoned.closed
    constructor
    · rcases loads.run_cases world with ⟨kept, -⟩ | ⟨rows, between, entity, received, registered⟩
      · exact kept.trans current
      · obtain ⟨finish, -, ran⟩ := received.run registered
        rw [ran, ← current, ← received.tracking]
        exact loadEach_of_closed (by rwa [received.tracking]) rows
    · intro row rest between entity received registered
      obtain ⟨finish, -, ran⟩ := received.run registered
      rw [ran, loadEach_cons_of_closed (by rwa [received.tracking])]
      rfl
  · intro δ world update current noted
    cases writes : update.update with
    | none =>
        unfold PreparedUpdate.execute
        rw [writes]
        exact current
    | some written =>
        generalize sent : world.send (.update written) = outcome
        obtain ⟨answer, after⟩ := outcome
        have kept : after.tracking = threads.tracking := by
          rw [← current]
          exact congrArg (fun outcome : Result Answer × World δ => outcome.2.tracking) sent.symm
        cases answer with
        | error error => rw [PreparedUpdate.execute_of_error writes sent, kept]
        | ok answer =>
            rw [PreparedUpdate.execute_of_ok writes sent, noted]
            show after.tracking.refresh scope update.key update.record = threads.tracking
            rw [kept, refreshes]

/-- Whether what was left behind in a scope still matters depends on the thread that closes it.  If
it is the thread that is in the scope, nothing that was left behind ever has an effect again.  If it
is another one, the first thread enters the same scope again, where a load that was started before
captures its rows, and a guard that is still held releases the level that was entered since. -/
theorem Run.left_behind {events : List Event} {opened closed : Threads}
    (run : Threads.Run .start events opened) (step : Threads.Step event opened closed)
    (wasOpen : (opened.tracking.scopeAt scope).depth ≠ 0)
    (isClosed : (closed.tracking.scopeAt scope).depth = 0) :
    ∃ thread manager, ⟨thread, manager, scope⟩ ∈ opened.tracking.attachments ∧
      (event.thread? = some thread →
        ∀ later after, Threads.Run closed later after → after.Ignores scope) ∧
      (event.thread? ≠ some thread →
        ∃ reentered, closed.tracking.enter thread manager = (scope, reentered) ∧
          (reentered.scopeAt scope).depth = 1 ∧
          (∀ key record operation, ∃ captured,
            reentered.capture scope key record operation = .ok captured ∧
              captured.HasCaptured scope key) ∧
          ∀ dropper, ((reentered.dropGuard dropper ⟨manager, scope⟩).scopeAt scope).depth = 0) := by
  have sound := run.sound .start
  have soundly := sound.step step
  obtain ⟨⟨thread, manager, attached⟩, here, same⟩ := sound.attached scope wasOpen
  obtain rfl : attached = scope := same
  refine ⟨thread, manager, here, fun own later after rest => ?_, fun _ => ?_⟩
  · have abandoned := Abandoned.of_step step sound wasOpen isClosed here rfl own
    exact (abandoned.run soundly rest).ignores (rest.sound soundly)
  · obtain ⟨_, _, -, attachments, -, -⟩ := step.closes sound wasOpen isClosed
    have stays : ⟨thread, manager, attached⟩ ∈ closed.tracking.attachments := by rwa [attachments]
    exact Tracking.enter_again (soundly.current?_of_mem stays) (soundly.known _ stays) isClosed

end Threads

namespace Example

/-- A thread is in a scope that one guard holds open. -/
def guarded : Threads := ⟨⟨[⟨1, []⟩], [⟨0, 0, 0⟩]⟩, fun _ => none, [⟨0, ⟨0, 0⟩⟩]⟩

/-- The guard was dropped on a thread, which has not forgotten the scope yet. -/
def dropped (thread : ThreadId) : Threads :=
  Threads.lower { guarded with held := [] } thread 0 0

/-- On its own thread the guard closes the scope for good: a load that was started before is refused
its rows.  On another thread it does not: the first thread enters the scope again, and the load
captures the topic there. -/
theorem left_behind_guarded :
    (∀ after, Threads.Run (dropped 0) [.forget 0] after → ∀ row,
      after.tracking.capture 0 proofsKey row "as_tracking" =
        fail (.trackingNotActive "as_tracking")) ∧
    ∃ reentered captured, (dropped 1).tracking.enter 0 0 = (0, reentered) ∧
      reentered.capture 0 proofsKey proofsRow "as_tracking" = .ok captured ∧
      captured.HasCaptured 0 proofsKey := by
  have run : Threads.Run .start [.lookUp 0 0 true, .raise 0] guarded :=
    @Threads.Run.enter .start 0 rfl 0 true
  have drop : ∀ thread, Threads.Step (.dropGuard thread ⟨0, ⟨0, 0⟩⟩) guarded (dropped thread) :=
    fun thread => .dropGuard rfl List.mem_cons_self
  constructor
  · obtain ⟨thread, manager, here, forgotten, -⟩ :=
      @Threads.Run.left_behind 0 _ _ _ _ run (drop 0) (by decide) (by decide)
    cases List.mem_singleton.mp here
    intro after forgets row
    exact (forgotten rfl _ _ forgets).captures proofsKey row _
  · obtain ⟨thread, manager, here, -, entered⟩ :=
      @Threads.Run.left_behind 0 _ _ _ _ run (drop 1) (by decide) (by decide)
    cases List.mem_singleton.mp here
    obtain ⟨reentered, again, -, captures, -⟩ := entered (by decide)
    obtain ⟨captured, hcaptured, stored⟩ := captures proofsKey proofsRow "as_tracking"
    exact ⟨reentered, captured, again, hcaptured, stored⟩

end Example

end TrackedQuery
