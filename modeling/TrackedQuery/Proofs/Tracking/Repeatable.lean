import TrackedQuery.Proofs.Tracking.ChangeSet
import TrackedQuery.Proofs.Tracking.Guards
import TrackedQuery.Proofs.Tracking.Task

/-!
# Updating twice

An update sends one statement, the one it was prepared with, or nothing if there is nothing to
write.  When the database refuses it, the scopes are as before, and the instance has the same
changes again.  When the database accepts it, a tracked instance has no changes any more.

## Strategy

* Between its preparation and its completion, an update does not own the scope: other threads enter,
  release and capture.  `Tracking.StaysOpen` allows all this, as long as the scope of the instance
  is open.  The thread is then in the scope still (`StaysOpen.active?`), and the instance still
  has a snapshot there (`StaysOpen.hasCaptured`), although it may be a newer one.
* The update completes by replacing the snapshot by the row of the instance, and a row has no
  changes against itself (`changesFrom_self`).
-/

namespace TrackedQuery

variable {δ : Type}

/-! ## Scopes that stay open -/

private theorem Event.key_rewrite (scope : ScopeId) (event : Event) (snapshot : Snapshot) :
    (event.rewrite scope snapshot).key = snapshot.key := by
  cases event with
  | capture other key record | refresh other key record =>
      simp only [Event.rewrite]
      split <;> rfl
  | lookUp | raise | release | dropGuard | forget => rfl

private theorem Event.key_rewriteAll (scope : ScopeId) (events : List Event) (snapshot : Snapshot) :
    (Event.rewriteAll scope events snapshot).key = snapshot.key := by
  induction events generalizing snapshot with
  | nil => rfl
  | cons event later ih => exact (ih _).trans (event.key_rewrite scope snapshot)

namespace Tracking

/-- The scope that a thread is in does not depend on what other threads and managers do. -/
theorem current?_lookUp {tracking : Tracking} {thread : ThreadId} {manager : ManagerId}
    {scope : ScopeId} (current : tracking.current? thread manager = some scope) (other : ThreadId)
    (otherManager : ManagerId) :
    (tracking.lookUp other otherManager).2.current? thread manager = some scope := by
  unfold lookUp
  cases vacant : tracking.current? other otherManager with
  | some entered => exact current
  | none =>
      -- an attachment is added only for a thread and a manager that have none
      have apart : (other == thread && otherManager == manager) = false := by
        rw [Bool.eq_false_iff]
        intro same
        simp only [Bool.and_eq_true, beq_iff_eq] at same
        obtain ⟨rfl, rfl⟩ := same
        rw [current] at vacant
        cases vacant
      unfold current? at current ⊢
      rw [List.find?_cons, apart]
      exact current

private theorem current?_detach {tracking : Tracking} {thread other : ThreadId}
    {manager otherManager : ManagerId} {scope forgotten : ScopeId}
    (current : tracking.current? thread manager = some scope)
    (kept : ¬ (other = thread ∧ otherManager = manager ∧ forgotten = scope)) :
    (tracking.detach other otherManager forgotten).current? thread manager = some scope := by
  obtain ⟨attachment, found, rfl⟩ := Option.map_eq_some_iff.mp current
  unfold current? detach
  rw [List.find?_filter]
  -- what is found first is not forgotten, and what is forgotten was not found first
  refine Option.map_eq_some_iff.mpr ⟨attachment, ?_, rfl⟩
  obtain ⟨own, before, after, split, passed⟩ := List.find?_eq_some_iff_append.mp found
  refine List.find?_eq_some_iff_append.mpr ⟨?_, before, after, split, fun earlier mem => ?_⟩
  · rw [decide_eq_true_eq]
    refine ⟨?_, own⟩
    rw [Bool.not_eq_true', Bool.eq_false_iff]
    intro same
    simp only [Bool.and_eq_true, beq_iff_eq] at own same
    obtain ⟨⟨rfl, rfl⟩, rfl⟩ := same
    exact kept ⟨own.1, own.2, rfl⟩
  · have apart := passed earlier mem
    rw [Bool.not_eq_true', decide_eq_false_iff_not]
    rintro ⟨-, here⟩
    rw [here] at apart
    cases apart

end Tracking

/-- A step that leaves the scope of a thread open leaves the thread in it. -/
theorem Threads.Step.current? {event : Event} {before after : Threads} {thread : ThreadId}
    {manager : ManagerId} {scope : ScopeId} (step : Threads.Step event before after)
    (sound : before.Sound) (still : (after.tracking.scopeAt scope).depth ≠ 0)
    (current : before.tracking.current? thread manager = some scope) :
    after.tracking.current? thread manager = some scope := by
  have lowered : ∀ other, (before.tracking.lower other).current? thread manager = some scope := by
    intro other
    unfold Tracking.current?
    rw [Tracking.attachments_lower]
    exact current
  cases step with
  | lookUp => exact Tracking.current?_lookUp current _ _
  | raise => exact current
  | release => exact lowered _
  | releaseNothing => exact current
  | dropGuard => exact lowered _
  | @forget _ other otherManager forgotten last =>
      refine Tracking.current?_detach current ?_
      -- a scope that its thread is about to forget is closed
      rintro ⟨rfl, rfl, rfl⟩
      exact still (sound.leaving last (Tracking.mem_of_current? current))
  | capture captured =>
      obtain ⟨-, rfl⟩ := Tracking.capture_eq_ok captured
      exact current
  | refuse => exact current
  | refresh => exact current

/-- A run through which the scope of a thread is open leaves the thread in it. -/
theorem Threads.Run.current? {before after : Threads} {events : List Event} {thread : ThreadId}
    {manager : ManagerId} {scope : ScopeId} (run : Threads.Run before events after)
    (sound : before.Sound)
    (still : ∀ earlier rest between, events = earlier ++ rest → Threads.Run before earlier between →
      Threads.Run between rest after → (between.tracking.scopeAt scope).depth ≠ 0)
    (current : before.tracking.current? thread manager = some scope) :
    after.tracking.current? thread manager = some scope := by
  induction run with
  | done => exact current
  | @step _ _ _ event later first rest ih =>
      have opened := still [event] later _ rfl (.step first (.done _)) rest
      refine ih (sound.step first) (fun earlier others between split toBetween fromBetween => ?_)
        (first.current? sound opened current)
      exact still (event :: earlier) others between (by rw [split]; rfl) (.step first toBetween)
        fromBetween

/-- What may have become of the scopes while a scope stayed open: the same, or what any threads made
of them. -/
inductive Tracking.StaysOpen (scope : ScopeId) : Tracking → Tracking → Prop where
  | same (tracking : Tracking) : StaysOpen scope tracking tracking
  | run {before after : Threads} {events : List Event} (sound : before.Sound)
      (run : Threads.Run before events after)
      (still : ∀ earlier rest between, events = earlier ++ rest →
        Threads.Run before earlier between → Threads.Run between rest after →
          (between.tracking.scopeAt scope).depth ≠ 0) :
      StaysOpen scope before.tracking after.tracking

namespace Tracking

/-- A thread that is in a scope is in it as long as it is open. -/
theorem active?_eq_some_iff {tracking : Tracking} {thread : ThreadId} {manager : ManagerId}
    {scope : ScopeId} :
    tracking.active? thread manager = some scope ↔
      tracking.current? thread manager = some scope ∧ (tracking.scopeAt scope).depth ≠ 0 := by
  unfold active?
  rw [Option.filter_eq_some_iff, decide_eq_true_eq, gt_iff_lt, Nat.pos_iff_ne_zero]

theorem StaysOpen.active? {scope : ScopeId} {tracking later : Tracking} {thread : ThreadId}
    {manager : ManagerId} (stays : StaysOpen scope tracking later)
    (active : tracking.active? thread manager = some scope) :
    later.active? thread manager = some scope := by
  cases stays with
  | same => exact active
  | @run before after events sound run still =>
      obtain ⟨current, -⟩ := active?_eq_some_iff.mp active
      have opened : (after.tracking.scopeAt scope).depth ≠ 0 :=
        still events [] after (List.append_nil _).symm run (.done _)
      exact active?_eq_some_iff.mpr ⟨run.current? sound still current, opened⟩

theorem StaysOpen.hasCaptured {scope : ScopeId} {tracking later : Tracking} {key : EntityKey}
    (stays : StaysOpen scope tracking later) (captured : tracking.HasCaptured scope key) :
    later.HasCaptured scope key := by
  cases stays with
  | same => exact captured
  | @run before after events sound run still =>
      obtain ⟨snapshot, stored, rfl⟩ := captured
      exact ⟨_, run.keeps still stored, Event.key_rewriteAll scope events snapshot⟩

/-- What is found in a scope under a key is found there as long as the scope is open. -/
theorem StaysOpen.snapshot? {scope : ScopeId} {tracking later : Tracking} {key : EntityKey}
    {snapshot : Snapshot} (stays : StaysOpen scope tracking later)
    (found : (tracking.scopeAt scope).snapshot? key = some snapshot) :
    ∃ newer, (later.scopeAt scope).snapshot? key = some newer := by
  have own := List.find?_some found
  obtain ⟨same, -⟩ := (EntityKey.foundUnder_iff _ _).mp own
  have captured : tracking.HasCaptured scope key :=
    ⟨snapshot, List.mem_of_find?_eq_some found, same⟩
  rw [same] at own
  exact Option.isSome_iff_exists.mp ((stays.hasCaptured captured).snapshot?_isSome own)

/-- Refreshing a key changes no snapshot of another one. -/
theorem mem_refresh_of_ne (tracking : Tracking) {key : EntityKey} {entry : Snapshot}
    (other : entry.key ≠ key) (record : Row) (refreshed scope : ScopeId) :
    entry ∈ ((tracking.refresh refreshed key record).scopeAt scope).snapshots ↔
      entry ∈ (tracking.scopeAt scope).snapshots := by
  by_cases same : scope = refreshed
  · subst same
    by_cases known : scope < tracking.scopes.length
    · rw [refresh, scopeAt_modifyScope_self known]
      exact Scope.mem_refreshSnapshot_of_ne other record _
    · rw [refresh, modifyScope_of_unknown (Nat.not_lt.mp known)]
  · rw [refresh, scopeAt_modifyScope_of_ne _ same]

end Tracking

/-! ## Changes of one instance -/

/-- A row has no changes against itself. -/
theorem ChangeSet.changesFrom_self (entity : Entity) (record : Row) :
    changesFrom entity (some record) 0 entity.columns record = [] := by
  rw [changesFrom_eq_nil_iff]
  intro offset column value _ hvalue _
  rw [isUnchanged_some_iff, Nat.zero_add]
  exact hvalue

namespace Connection

variable {connection : Connection} {tracking : Tracking} {thread : ThreadId} {subject : Instance}
  {entity : Entity}

/-- The change set of an instance of full width, by the row it is compared with. -/
theorem changeSet_of_wide (registered : connection.schema.resolve subject.entity = .ok entity)
    (wide : subject.record.length = entity.columns.length) {key : EntityKey}
    (hkey : EntityKey.ofRecord entity subject.record = .ok key) (tracking : Tracking)
    (thread : ThreadId) :
    connection.changeSet tracking thread subject =
      .ok ⟨key, if (connection.known tracking thread key).isSome then .diff else .full,
        ChangeSet.changesFrom entity (connection.known tracking thread key) 0 entity.columns
          subject.record⟩ := by
  unfold changeSet
  simp only [registered, hkey, ChangeSet.compute, wide, if_true, bind, Except.bind, pure,
    Except.pure]
  rfl

/-- An instance is compared with its snapshot in the scope of the thread. -/
theorem found_of_diff {key : EntityKey} {scope : ScopeId}
    (diff : (connection.known tracking thread key).isSome = true)
    (active : tracking.active? thread connection.manager = some scope) :
    ∃ snapshot, (tracking.scopeAt scope).snapshot? key = some snapshot := by
  rw [known, active, Option.bind_some, Option.isSome_map] at diff
  exact Option.isSome_iff_exists.mp diff

/-- The change set of an instance of full width belongs to its key. -/
theorem exists_changeSet (registered : connection.schema.resolve subject.entity = .ok entity)
    (wide : subject.record.length = entity.columns.length) (tracking : Tracking)
    (thread : ThreadId) :
    ∃ changes, connection.changeSet tracking thread subject = .ok changes ∧
      EntityKey.ofRecord entity subject.record = .ok changes.key ∧
      (changes.mode = .diff → (connection.known tracking thread changes.key).isSome = true) := by
  obtain ⟨fields, hkey, -⟩ := EntityKey.ofRecord_of_wide wide
  refine ⟨_, changeSet_of_wide registered wide hkey tracking thread, hkey, ?_⟩
  intro diff
  by_contra unknown
  simp only [unknown] at diff
  cases diff

/-- What is prepared for an instance, by its change set. -/
theorem prepareUpdate_of_changeSet
    (registered : connection.schema.resolve subject.entity = .ok entity) {changes : ChangeSet}
    (computed : connection.changeSet tracking thread subject = .ok changes) :
    ∃ prepared, connection.prepareUpdate tracking thread subject = .ok prepared ∧
      prepared.key = changes.key ∧ prepared.record = subject.record ∧
      (changes.mode = .diff → prepared.scope = tracking.active? thread connection.manager) ∧
      prepared.update = if changes.changes = [] then none else some (changes.toUpdate entity) := by
  unfold prepareUpdate
  rw [registered, computed]
  refine ⟨_, rfl, rfl, rfl, ?_, ?_⟩
  · intro diff
    simp only [diff]
  · simp only [List.isEmpty_iff]

/-- A tracked instance whose snapshot was replaced by its row has no changes. -/
theorem changeSet_refresh (registered : connection.schema.resolve subject.entity = .ok entity)
    (wide : subject.record.length = entity.columns.length) {key : EntityKey}
    (hkey : EntityKey.ofRecord entity subject.record = .ok key) {scope : ScopeId}
    {snapshot : Snapshot} (active : tracking.active? thread connection.manager = some scope)
    (found : (tracking.scopeAt scope).snapshot? key = some snapshot) :
    connection.changeSet (tracking.refresh scope key subject.record) thread subject =
      .ok ⟨key, .diff, []⟩ := by
  have opened := (Tracking.active?_eq_some_iff.mp active).2
  have levels : (tracking.refresh scope key subject.record).SameLevels tracking :=
    ⟨rfl, tracking.depth_refresh scope key subject.record⟩
  have known : connection.known (tracking.refresh scope key subject.record) thread key =
      some subject.record := by
    rw [Connection.known, levels.active?, active, Option.bind_some,
      Tracking.snapshot?_refresh_self (Tracking.known_of_depth opened) found, Option.map_some]
  rw [changeSet_of_wide registered wide hkey, known, ChangeSet.changesFrom_self]
  rfl

/-- An update is exact and can be repeated.  With an empty change set nothing is sent.  Otherwise
the update that was prepared is sent, and nothing else.  If the database refuses it, no scope
changes, and the change set is the same again.  If it accepts it, no snapshot of another key
changes, and if the instance was compared with a snapshot whose scope is still open, it has no
changes any more. -/
theorem update_repeatable (registered : connection.schema.resolve subject.entity = .ok entity)
    (wide : subject.record.length = entity.columns.length) (tracking : Tracking)
    (thread : ThreadId) :
    ∃ changes prepared, connection.changeSet tracking thread subject = .ok changes ∧
      connection.prepareUpdate tracking thread subject = .ok prepared ∧
      (changes.changes = [] → prepared.update = none ∧
        ∀ {δ : Type} (world : World δ), prepared.execute world = (.ok 0, world)) ∧
      (changes.changes ≠ [] → prepared.update = some (changes.toUpdate entity) ∧
        ∀ {δ : Type} (world sent : World δ),
          (∀ error, world.send (.update (changes.toUpdate entity)) = (.error error, sent) →
            prepared.execute world = (.error error, sent) ∧
            sent.tracking = world.tracking ∧
            (world.tracking = tracking →
              connection.changeSet sent.tracking thread subject = .ok changes)) ∧
          (∀ answer, world.send (.update (changes.toUpdate entity)) = (.ok answer, sent) →
            ∃ after,
              prepared.execute world = (.ok answer.toCount, { sent with tracking := after }) ∧
              after.SameLevels world.tracking ∧
              (∀ (scope : ScopeId) (entry : Snapshot), entry.key ≠ changes.key →
                (entry ∈ (after.scopeAt scope).snapshots ↔
                  entry ∈ (world.tracking.scopeAt scope).snapshots)) ∧
              (changes.mode = .diff → ∀ scope,
                tracking.active? thread connection.manager = some scope →
                Tracking.StaysOpen scope tracking world.tracking →
                  connection.changeSet after thread subject =
                    .ok ⟨changes.key, .diff, []⟩))) := by
  obtain ⟨changes, computed, hkey, known⟩ := exists_changeSet registered wide tracking thread
  obtain ⟨prepared, ready, key, record, diff, update⟩ :=
    prepareUpdate_of_changeSet registered computed
  refine ⟨changes, prepared, computed, ready, ?_, ?_⟩
  · intro nothing
    rw [if_pos nothing] at update
    refine ⟨update, ?_⟩
    intro δ world
    unfold PreparedUpdate.execute
    rw [update]
    rfl
  · intro some
    rw [if_neg some] at update
    refine ⟨update, ?_⟩
    intro δ world sent
    have kept : ∀ {answer : Result Answer} {update : Update},
        world.send (.update update) = (answer, sent) → sent.tracking = world.tracking := by
      rintro answer update ⟨⟩
      rfl
    constructor
    · intro error failed
      refine ⟨PreparedUpdate.execute_of_error update failed, kept failed, ?_⟩
      intro still
      rw [kept failed, still, computed]
    · intro answer succeeded
      refine ⟨_, PreparedUpdate.execute_of_ok update succeeded, ?_, ?_, ?_⟩
      · rw [kept succeeded]
        cases prepared.scope with
        | none => exact ⟨rfl, fun _ => rfl⟩
        | some noted => exact ⟨rfl, world.tracking.depth_refresh noted _ _⟩
      · intro scope entry other
        rw [kept succeeded]
        cases prepared.scope with
        | none => rfl
        | some noted =>
            rw [← key] at other
            exact Tracking.mem_refresh_of_ne world.tracking other prepared.record noted scope
      · intro tracked scope active stays
        have noted := (diff tracked).trans active
        -- the instance had a snapshot in the scope, so it has one there still
        obtain ⟨snapshot, found⟩ := found_of_diff (known tracked) active
        obtain ⟨newer, still⟩ := stays.snapshot? found
        rw [kept succeeded, noted, key, record]
        exact changeSet_refresh registered wide hkey (stays.active? active) still

end Connection

namespace Example

/-- A topic that was renamed after it was captured. -/
def renamedTopic : Instance := ⟨"Topic", renamedRow⟩

/-- Its change set. -/
def titleChange : ChangeSet := ⟨proofsKey, .diff, [⟨1, "title", .string "Lemmas"⟩]⟩

/-- A database that refuses the first operation and accepts the others, and the scope with the
topic. -/
def refusingWorld : World Script :=
  ⟨Script.database, ⟨[fail (.database (.reported "locked" []))], []⟩, (shared proofsRow).tracking⟩

/-- The renamed topic is updated in vain, then successfully, and then it has no changes. -/
theorem update_repeatable_topic :
    ∃ prepared refused accepted,
      connection.prepareUpdate refusingWorld.tracking 0 renamedTopic = .ok prepared ∧
      prepared.execute refusingWorld =
        (fail (.database (.reported "locked" [])), refused) ∧
      connection.changeSet refused.tracking 0 renamedTopic = .ok titleChange ∧
      prepared.execute refused = (.ok 1, accepted) ∧
      connection.changeSet accepted.tracking 0 renamedTopic = .ok ⟨proofsKey, .diff, []⟩ := by
  have registered : connection.schema.resolve renamedTopic.entity = .ok topic := rfl
  obtain ⟨changes, prepared, computed, ready, -, writes⟩ :=
    Connection.update_repeatable registered rfl refusingWorld.tracking 0
  have same : changes = titleChange := by
    cases computed
    rfl
  subst same
  obtain ⟨-, executes⟩ := writes (by decide)
  obtain ⟨refuses, -⟩ := executes refusingWorld _
  obtain ⟨refused, -, again⟩ := refuses _ rfl
  obtain ⟨-, accepts⟩ := executes (refusingWorld.send (.update (titleChange.toUpdate topic))).2 _
  obtain ⟨after, accepted, -, -, repeated⟩ := accepts _ rfl
  exact ⟨prepared, _, _, ready, refused, again rfl, accepted, repeated rfl 0 rfl (.same _)⟩

end Example

end TrackedQuery
