import TrackedQuery.Example
import TrackedQuery.Proofs.Tracking.Threads

/-!
# Guards and what they protect

As long as every level of a scope is entered with a guard, and released by dropping it, the depth of
a scope is the number of its guards, and the scope stays with the thread that made them
(`Guarded.step`, `Run.guarded`).  What a scope has captured stays captured until the last of its
guards is dropped: until then a snapshot is at most rewritten, by a capture or a refresh of its own
key (`Step.keeps`, `Run.keeps`).
-/

namespace TrackedQuery

namespace Event

/-- Whether the event may occur in a program that enters scopes with guards, and releases them by
dropping these. -/
def usesGuards : Event → Bool
  | .lookUp _ _ guarded => guarded
  | .release _ _ => false
  | .raise _ | .dropGuard _ _ | .forget _ | .capture _ _ _ | .refresh _ _ _ => true

/-- What becomes of a snapshot of a scope: capturing or refreshing its key replaces its row. -/
def rewrite (scope : ScopeId) (event : Event) (snapshot : Snapshot) : Snapshot :=
  match event with
  | .capture other key record | .refresh other key record =>
      if other = scope ∧ snapshot.key.foundUnder key then { snapshot with record := record }
      else snapshot
  | .lookUp _ _ _ | .raise _ | .release _ _ | .dropGuard _ _ | .forget _ => snapshot

/-- What becomes of a snapshot of a scope through several events. -/
def rewriteAll (scope : ScopeId) : List Event → Snapshot → Snapshot
  | [], snapshot => snapshot
  | event :: later, snapshot => rewriteAll scope later (event.rewrite scope snapshot)

end Event

/-! ## The number of guards -/

/-- The invariant of programs that use guards only. -/
structure Threads.Guarded (threads : Threads) : Prop where
  entering : ∀ {thread manager scope guarded},
    threads.halfway thread = some (.entering manager scope guarded) → guarded = true
  counted : ∀ scope, (threads.tracking.scopeAt scope).depth = threads.guardsOf scope

namespace Threads

private theorem guardsOf_erase {threads : Threads} {held : HeldGuard}
    (undropped : held ∈ threads.held) (scope : ScopeId) :
    threads.guardsOf scope =
      guardsOf { threads with held := threads.held.erase held } scope +
        if held.guard.scope = scope then 1 else 0 := by
  unfold guardsOf
  rw [(List.perm_cons_erase undropped).countP_eq, List.countP_cons]
  simp

namespace Guarded

variable {threads : Threads}

theorem start : Threads.start.Guarded where
  entering := by simp [Threads.start]
  counted := fun _ => rfl

private theorem changeSnapshots (guarded : threads.Guarded) {scope : ScopeId}
    {change : Scope → Scope} (depth : ∀ scope, (change scope).depth = scope.depth) :
    Threads.Guarded { threads with tracking := threads.tracking.modifyScope scope change } where
  entering := guarded.entering
  counted := fun other =>
    (threads.tracking.depth_modifyScope depth scope other).trans (guarded.counted other)

/-- Every step of a program that uses guards only keeps the invariant. -/
theorem step {event : Event} {after : Threads} (guarded : threads.Guarded)
    (sound : threads.Sound) (uses : event.usesGuards = true)
    (step : Threads.Step event threads after) : after.Guarded := by
  -- a guard counts from when its scope is raised until it is dropped
  cases step with
  | @lookUp _ thread manager byGuard free =>
      refine ⟨?_, fun scope => ?_⟩
      · intro other otherManager scope otherGuarded halfway
        rcases of_update halfway with ⟨-, new⟩ | ⟨-, halfway⟩
        · cases new
          exact uses
        · exact guarded.entering halfway
      · rw [Tracking.scopeAt_lookUp]
        exact guarded.counted scope
  | @raise _ thread manager entered byGuard found =>
      obtain rfl := guarded.entering found
      refine ⟨?_, fun scope => ?_⟩
      · intro other otherManager scope otherGuarded halfway
        rcases of_update halfway with ⟨-, new⟩ | ⟨-, halfway⟩
        · cases new
        · exact guarded.entering halfway
      · have known := sound.known _ (sound.entering found)
        have before := guarded.counted scope
        unfold guardsOf at before ⊢
        rw [if_pos rfl, List.countP_cons]
        by_cases same : scope = entered
        · subst same
          rw [Tracking.scopeAt_modifyScope_self known, Scope.depth_enter, before]
          simp
        · rw [Tracking.scopeAt_modifyScope_of_ne _ same, before]
          simp [Ne.symm same]
  | release => cases uses
  | releaseNothing => cases uses
  | @dropGuard _ thread held free undropped =>
      refine ⟨?_, fun scope => ?_⟩
      · intro other otherManager scope otherGuarded halfway
        rcases halfway_lower halfway with halfway | ⟨-, leaving, -⟩
        · exact guarded.entering halfway
        · cases leaving
      · show ((threads.tracking.lower held.guard.scope).scopeAt scope).depth =
          guardsOf { threads with held := threads.held.erase held } scope
        have before := guarded.counted scope
        rw [guardsOf_erase undropped] at before
        by_cases same : held.guard.scope = scope
        · subst same
          rw [Tracking.depth_lower_self, before]
          simp
        · rw [Tracking.scopeAt_lower_of_ne _ (Ne.symm same), before]
          simp [same]
  | @forget _ thread manager _ last =>
      refine ⟨?_, guarded.counted⟩
      intro other otherManager scope otherGuarded halfway
      rcases of_update halfway with ⟨-, new⟩ | ⟨-, halfway⟩
      · cases new
      · exact guarded.entering halfway
  | capture captured =>
      obtain ⟨-, rfl⟩ := Tracking.capture_eq_ok captured
      exact guarded.changeSnapshots (fun _ => rfl)
  | refuse => exact guarded
  | refresh => exact guarded.changeSnapshots (fun _ => rfl)

/-- A scope that has a guard is attached to the thread that made the guard. -/
theorem current? (guarded : threads.Guarded) (sound : threads.Sound) {held : HeldGuard}
    (undropped : held ∈ threads.held) :
    threads.tracking.current? held.thread held.guard.manager = some held.guard.scope := by
  have positive : 0 < threads.guardsOf held.guard.scope :=
    List.countP_pos_iff.mpr ⟨held, undropped, by simp⟩
  have opened : (threads.tracking.scopeAt held.guard.scope).depth ≠ 0 := by
    rw [guarded.counted]
    exact Nat.ne_of_gt positive
  obtain ⟨attachment, here, same⟩ := sound.attached _ opened
  obtain rfl := sound.guardAttached held undropped attachment here same
  exact sound.current?_of_mem here

end Guarded

end Threads

theorem Threads.Run.guarded {before after : Threads} {events : List Event}
    (guarded : before.Guarded) (sound : before.Sound)
    (uses : ∀ event ∈ events, event.usesGuards = true)
    (run : Threads.Run before events after) : after.Guarded := by
  induction run with
  | done => exact guarded
  | step first _ ih =>
      obtain ⟨here, later⟩ := List.forall_mem_cons.mp uses
      exact ih (guarded.step sound here first) (sound.step first) later

/-! ## What stays captured -/

/-- A step that leaves a scope open keeps its snapshots. -/
theorem Threads.Step.keeps {event : Event} {before after : Threads} {scope : ScopeId}
    {entry : Snapshot} (step : Threads.Step event before after)
    (still : (after.tracking.scopeAt scope).depth ≠ 0)
    (stored : entry ∈ (before.tracking.scopeAt scope).snapshots) :
    event.rewrite scope entry ∈ (after.tracking.scopeAt scope).snapshots := by
  -- a scope that is still open with one level less was open more than once
  have lowered : ∀ {other : ScopeId}, ((before.tracking.lower other).scopeAt scope).depth ≠ 0 →
      entry ∈ ((before.tracking.lower other).scopeAt scope).snapshots := by
    intro other still
    by_cases same : scope = other
    · subst same
      rw [Tracking.depth_lower_self] at still
      have more : 1 < (before.tracking.scopeAt scope).depth := by omega
      rw [Tracking.scopeAt_lower_self (by omega), Scope.snapshots_release_of_more more]
      exact stored
    · rw [Tracking.scopeAt_lower_of_ne _ same]
      exact stored
  cases step with
  | lookUp =>
      rw [Tracking.scopeAt_lookUp]
      exact stored
  | @raise _ _ _ entered =>
      by_cases same : scope = entered
      · subst same
        rw [Tracking.scopeAt_modifyScope_self (Tracking.known_of_mem stored)]
        exact stored
      · rw [Tracking.scopeAt_modifyScope_of_ne _ same]
        exact stored
  | release => exact lowered still
  | releaseNothing => exact stored
  | dropGuard => exact lowered still
  | forget => exact stored
  | @capture _ other key record _ _ captured =>
      obtain ⟨opened, rfl⟩ := Tracking.capture_eq_ok captured
      by_cases same : other = scope
      · subst same
        rw [Tracking.scopeAt_modifyScope_self (Tracking.known_of_depth opened)]
        have kept := @Scope.mem_insertSnapshot_of_mem ⟨key, record⟩ _ _ stored
        by_cases own : entry.key.foundUnder key = true
        · obtain ⟨rfl, -⟩ := (EntityKey.foundUnder_iff _ _).mp own
          simpa [Event.rewrite, Scope.capture, own] using kept
        · simpa [Event.rewrite, Scope.capture, own] using kept
      · rw [Tracking.scopeAt_modifyScope_of_ne _ (Ne.symm same)]
        simpa [Event.rewrite, same] using stored
  | @refuse _ other key record operation error refused =>
      by_cases same : other = scope
      · subst same
        simp [Tracking.capture, still] at refused
      · simpa [Event.rewrite, same] using stored
  | @refresh _ other key record =>
      by_cases same : other = scope
      · subst same
        rw [Tracking.refresh, Tracking.scopeAt_modifyScope_self (Tracking.known_of_mem stored)]
        simpa [Event.rewrite, Scope.refresh] using
          Scope.mem_refreshSnapshot_of_mem key record stored
      · rw [Tracking.refresh, Tracking.scopeAt_modifyScope_of_ne _ (Ne.symm same)]
        simpa [Event.rewrite, same] using stored

/-- A run through which a scope is open keeps its snapshots. -/
theorem Threads.Run.keeps {before after : Threads} {events : List Event} {scope : ScopeId}
    {entry : Snapshot} (run : Threads.Run before events after)
    (still : ∀ earlier rest between, events = earlier ++ rest → Threads.Run before earlier between →
      Threads.Run between rest after → (between.tracking.scopeAt scope).depth ≠ 0)
    (stored : entry ∈ (before.tracking.scopeAt scope).snapshots) :
    Event.rewriteAll scope events entry ∈ (after.tracking.scopeAt scope).snapshots := by
  induction run generalizing entry with
  | done => exact stored
  | @step _ _ _ event later first rest ih =>
      have opened := still [event] later _ rfl (.step first (.done _)) rest
      refine ih (fun earlier others between split toBetween fromBetween => ?_)
        (first.keeps opened stored)
      exact still (event :: earlier) others between (by rw [split]; rfl) (.step first toBetween)
        fromBetween

/-! ## The scopes of any threads -/

/-- Whatever the threads do: a closed scope remembers nothing, a thread is in at most one scope of
each manager, and a scope is attached to one thread.  If they only use guards: the depth of a scope
is the number of its guards, a scope with guards is attached to the thread that made them, a scope
without guards remembers nothing, and of what a scope has captured nothing is lost as long as it has
guards; a snapshot is only rewritten, by a capture or a refresh of its key. -/
theorem Threads.Run.scopes_invariant {events : List Event} {threads : Threads}
    (run : Threads.Run .start events threads) :
    (∀ scope, (threads.tracking.scopeAt scope).depth = 0 →
      (threads.tracking.scopeAt scope).snapshots = []) ∧
    (∀ first ∈ threads.tracking.attachments, ∀ second ∈ threads.tracking.attachments,
      first.thread = second.thread ∧ first.manager = second.manager ∨
        first.scope = second.scope → first = second) ∧
    ((∀ event ∈ events, event.usesGuards = true) →
      (∀ scope, (threads.tracking.scopeAt scope).depth = threads.guardsOf scope) ∧
      (∀ held ∈ threads.held,
        threads.tracking.current? held.thread held.guard.manager = some held.guard.scope) ∧
      (∀ scope, threads.guardsOf scope = 0 → (threads.tracking.scopeAt scope).snapshots = []) ∧
      ∀ (scope : ScopeId) (later : List Event) (after : Threads), Threads.Run threads later after →
        (∀ event ∈ later, event.usesGuards = true) →
        (∀ earlier rest between, later = earlier ++ rest → Threads.Run threads earlier between →
          Threads.Run between rest after → 0 < between.guardsOf scope) →
        ∀ entry ∈ (threads.tracking.scopeAt scope).snapshots,
          Event.rewriteAll scope later entry ∈ (after.tracking.scopeAt scope).snapshots) := by
  have sound := run.sound .start
  refine ⟨sound.empty, sound.alone, fun uses => ?_⟩
  have guarded := run.guarded .start .start uses
  refine ⟨guarded.counted, fun held => guarded.current? sound, fun scope unguarded => ?_, ?_⟩
  · exact sound.empty scope ((guarded.counted scope).trans unguarded)
  · intro scope later after rest usesLater still entry stored
    refine rest.keeps (fun earlier others between split toBetween fromBetween => ?_) stored
    have usesEarlier : ∀ event ∈ earlier, event.usesGuards = true := fun event mem =>
      usesLater event (by rw [split]; exact List.mem_append_left _ mem)
    rw [(toBetween.guarded guarded sound usesEarlier).counted]
    exact Nat.ne_of_gt (still earlier others between split toBetween fromBetween)

namespace Example

/-- The key of a topic. -/
def proofsKey : EntityKey := ⟨"Topic", .string "a"⟩

/-- Its row. -/
def proofsRow : Row := [.string "a", .string "Proofs", .int32 5, .null]

/-- Its row after it was renamed. -/
def renamedRow : Row := [.string "a", .string "Lemmas", .int32 5, .null]

/-- One thread makes two guards of a scope and captures the topic in it, and another thread drops
one of the guards. -/
def sharing : List Event :=
  [.lookUp 0 0 true, .raise 0, .lookUp 0 0 true, .raise 0, .capture 0 proofsKey proofsRow,
    .dropGuard 1 ⟨0, ⟨0, 0⟩⟩]

/-- The scope after that: one guard holds it open. -/
def shared (row : Row) : Threads :=
  ⟨⟨[⟨1, [⟨proofsKey, row⟩]⟩], [⟨0, 0, 0⟩]⟩, fun _ => none, [⟨0, ⟨0, 0⟩⟩]⟩

private theorem sharing_run : Threads.Run .start sharing (shared proofsRow) := by
  have once := @Threads.Run.enter .start 0 rfl 0 true
  have twice := once.append (@Threads.Run.enter _ 0 rfl 0 true)
  have captured := twice.append
    (.step (@Threads.Step.capture _ 0 proofsKey proofsRow "as_tracking" _ rfl) (.done _))
  exact captured.append
    (.step (@Threads.Step.dropGuard _ 1 ⟨0, ⟨0, 0⟩⟩ rfl List.mem_cons_self) (.done _))

/-- The other guard keeps the scope on its thread and the topic in it, and a refresh renames it. -/
theorem shared_scope_stays :
    Threads.Run .start sharing (shared proofsRow) ∧
      Threads.Run (shared proofsRow) [.refresh 0 proofsKey renamedRow] (shared renamedRow) ∧
      (shared proofsRow).tracking.current? 0 0 = some 0 ∧
      ((shared proofsRow).tracking.scopeAt 0).depth = (shared proofsRow).guardsOf 0 ∧
      ⟨proofsKey, renamedRow⟩ ∈ ((shared renamedRow).tracking.scopeAt 0).snapshots := by
  have refreshes : Threads.Run (shared proofsRow) [.refresh 0 proofsKey renamedRow]
      (shared renamedRow) := .step .refresh (.done _)
  have uses : ∀ event ∈ sharing, event.usesGuards = true := by decide
  obtain ⟨-, -, byGuards⟩ := Threads.Run.scopes_invariant sharing_run
  obtain ⟨counted, attached, -, kept⟩ := byGuards uses
  refine ⟨sharing_run, refreshes, attached ⟨0, ⟨0, 0⟩⟩ List.mem_cons_self, counted 0, ?_⟩
  refine kept 0 _ _ refreshes (by decide) (fun earlier rest between split toBetween _ => ?_)
    ⟨proofsKey, proofsRow⟩ List.mem_cons_self
  -- the run has one step, before and after which the other guard is held
  cases toBetween with
  | done => decide
  | step first others =>
      obtain ⟨rfl, nothing⟩ := List.cons_eq_cons.mp split
      obtain ⟨rfl, rfl⟩ := List.append_eq_nil_iff.mp nothing.symm
      cases first
      cases others
      decide

end Example

end TrackedQuery
