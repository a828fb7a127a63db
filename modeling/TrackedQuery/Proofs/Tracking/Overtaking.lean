import TrackedQuery.Proofs.Tracking.ChangeSet
import TrackedQuery.Proofs.Tracking.Task

/-!
# Updates that overtake each other

An update compares its instance with the snapshot when it is prepared, and replaces the snapshot by
the whole instance when it completes.  In between, other updates of copies of the instance may
complete.  A snapshot that agreed with the stored row then agrees with it still, unless an update
that leaves a column unwritten replaces a newer value of this column in the snapshot: such an update
was overtaken (`Tracked.agrees_iff`).

## Strategy

`Follows` holds as long as nothing was overtaken.  Its idea is that an update in flight holds, in
each column that it does not write, the value that was stored when it was prepared, because the
snapshot agreed with the stored row then.
-/

namespace TrackedQuery

variable {δ : Type}

/-! ## Updates in flight -/

/-- An update that was prepared, and the row that was stored at the time. -/
structure PendingUpdate where
  prepared : PreparedUpdate
  seen : Row

/-- A world, and the updates that were prepared in it and did not complete yet. -/
structure Updates (δ : Type) where
  world : World δ
  pending : List PendingUpdate

/-- What happens to updates. -/
inductive UpdateStep where
  /-- An update of a copy with the given values is prepared. -/
  | prepare (record : Row)
  /-- The update at a position is sent and answered. -/
  | complete (position : Nat)

/-- The update at a position completes. -/
def Updates.complete (updates : Updates δ) (position : Nat) : Updates δ :=
  match updates.pending[position]? with
  | none => updates
  | some pending =>
      ⟨(pending.prepared.execute updates.world).2, updates.pending.eraseIdx position⟩

/-- A tracked instance, and the row that is stored for it. -/
structure Tracked (δ : Type) where
  connection : Connection
  thread : ThreadId
  scope : ScopeId
  entity : Entity
  key : EntityKey
  database : Database δ
  /-- The row of the instance in a state of the database. -/
  stored : δ → Row

namespace Tracked

variable (tracked : Tracked δ)

/-- An update of a copy is prepared, unless that fails. -/
def prepare (updates : Updates δ) (record : Row) : Updates δ :=
  match tracked.connection.prepareUpdate updates.world.tracking tracked.thread
      ⟨tracked.entity.name, record⟩ with
  | .error _ => updates
  | .ok prepared =>
      { updates with
        pending := updates.pending ++ [⟨prepared, tracked.stored updates.world.state⟩] }

/-- One step. -/
def step (updates : Updates δ) : UpdateStep → Updates δ
  | .prepare record => tracked.prepare updates record
  | .complete position => updates.complete position

/-- Several steps. -/
def run (updates : Updates δ) : List UpdateStep → Updates δ
  | [] => updates
  | first :: rest => run (tracked.step updates first) rest

/-- What is asked of the database and of the key: every update succeeds, an update with the
condition on the key of the instance is written to its row, and one with the condition on another
key is not. -/
structure Lawful : Prop where
  registered : tracked.connection.schema.resolve tracked.entity.name = .ok tracked.entity
  keyed : ∃ record, record.length = tracked.entity.columns.length ∧
    EntityKey.ofRecord tracked.entity record = .ok tracked.key
  succeeds : ∀ state update, ∃ answer,
    (tracked.database.answer state (.update update)).1 = .ok answer
  applies : ∀ state update, update.entity = tracked.entity.name →
    update.filter = ChangeSet.keyCondition tracked.entity tracked.key.key →
      tracked.stored (tracked.database.answer state (.update update)).2 =
        update.assignments.writeTo (tracked.stored state)
  spares : ∀ state update other, update.filter = ChangeSet.keyCondition tracked.entity other →
    update.filter ≠ ChangeSet.keyCondition tracked.entity tracked.key.key →
      tracked.stored (tracked.database.answer state (.update update)).2 = tracked.stored state

/-- The snapshot has the values that are stored, wherever an update may write. -/
def Agrees (world : World δ) : Prop :=
  ∃ snapshot, (world.tracking.scopeAt tracked.scope).snapshot? tracked.key = some snapshot ∧
    ∀ column < tracked.entity.columns.length, tracked.entity.isUpdatable column = true →
      snapshot.record[column]? = (tracked.stored world.state)[column]?

/-- An update of the instance leaves a column unwritten whose stored value was changed since the
update was prepared. -/
def Overtaken (world : World δ) (pending : PendingUpdate) : Prop :=
  pending.prepared.key = tracked.key ∧ ∃ update, pending.prepared.update = some update ∧
    ∃ column < tracked.entity.columns.length, tracked.entity.isUpdatable column = true ∧
      update.assignments.assigns column = false ∧
      (tracked.stored world.state)[column]? ≠ pending.seen[column]?

/-! ## As long as nothing was overtaken -/

/-- What is known of an update in flight. -/
structure Faithful (pending : PendingUpdate) : Prop where
  wide : pending.prepared.record.length = tracked.entity.columns.length
  keyed : EntityKey.ofRecord tracked.entity pending.prepared.record = .ok pending.prepared.key
  addressed : ∀ update, pending.prepared.update = some update →
    update.entity = tracked.entity.name ∧
      update.filter = ChangeSet.keyCondition tracked.entity pending.prepared.key.key
  values : ∀ update, pending.prepared.update = some update → ∀ assignment ∈ update.assignments,
    pending.prepared.record[assignment.column]? = some assignment.value
  scope : pending.prepared.key = tracked.key → pending.prepared.scope = some tracked.scope
  /-- What it does not write is what was stored. -/
  unwritten : pending.prepared.key = tracked.key →
    ∀ update, pending.prepared.update = some update →
      ∀ column < tracked.entity.columns.length, tracked.entity.isUpdatable column = true →
        update.assignments.assigns column = false →
          pending.prepared.record[column]? = pending.seen[column]?

/-- The invariant of the steps before the first update that was overtaken. -/
structure Follows (updates : Updates δ) : Prop where
  database : updates.world.database = tracked.database
  active : updates.world.tracking.active? tracked.thread tracked.connection.manager =
    some tracked.scope
  wide : (tracked.stored updates.world.state).length = tracked.entity.columns.length
  agrees : tracked.Agrees updates.world
  pending : ∀ pending ∈ updates.pending, tracked.Faithful pending

variable {tracked} {updates : Updates δ}

/-- The row that an update of the instance is compared with has the values that are stored. -/
theorem Follows.known (follows : tracked.Follows updates) :
    ∃ row, tracked.connection.known updates.world.tracking tracked.thread tracked.key = some row ∧
      ∀ column < tracked.entity.columns.length, tracked.entity.isUpdatable column = true →
        row[column]? = (tracked.stored updates.world.state)[column]? := by
  obtain ⟨snapshot, found, agrees⟩ := follows.agrees
  refine ⟨snapshot.record, ?_, agrees⟩
  rw [Connection.known, follows.active, Option.bind_some, found, Option.map_some]

private theorem Follows.known_scope (follows : tracked.Follows updates) :
    tracked.scope < updates.world.tracking.scopes.length := by
  have opened := (Option.filter_eq_some_iff.mp follows.active).2
  exact Tracking.known_of_depth (Nat.ne_of_gt (of_decide_eq_true opened))

/-- An update that is prepared from a snapshot that agrees with the stored row is faithful. -/
theorem Follows.faithful (follows : tracked.Follows updates) (lawful : tracked.Lawful)
    {record : Row} {prepared : PreparedUpdate}
    (ready : tracked.connection.prepareUpdate updates.world.tracking tracked.thread
      ⟨tracked.entity.name, record⟩ = .ok prepared) :
    tracked.Faithful ⟨prepared, tracked.stored updates.world.state⟩ := by
  obtain ⟨key, changes, wide, hkey, hchanges, rfl⟩ :=
    Connection.prepareUpdate_eq_ok lawful.registered ready
  -- the update can only be the one that was computed
  have writes : ∀ {update : Update}, (if changes.isEmpty then none
        else some (Update.mk tracked.entity.name tracked.entity.table changes
          (ChangeSet.keyCondition tracked.entity key.key))) = some update →
      update = ⟨tracked.entity.name, tracked.entity.table, changes,
        ChangeSet.keyCondition tracked.entity key.key⟩ := by
    intro update written
    split at written
    · cases written
    · exact (Option.some.inj written).symm
  refine ⟨wide, hkey, ?_, ?_, ?_, ?_⟩
  · intro update written
    rw [writes written]
    exact ⟨rfl, rfl⟩
  · intro update written assignment mem
    rw [writes written, hchanges] at mem
    exact ChangeSet.getElem?_of_mem_changesFrom mem
  · rintro rfl
    obtain ⟨row, known, -⟩ := follows.known
    simp only [known, Option.isSome_some, if_true, follows.active]
  · rintro rfl update written column inside updatable unwritten
    obtain ⟨row, known, agrees⟩ := follows.known
    rw [writes written, hchanges, known] at unwritten
    rw [← agrees column inside updatable]
    exact ChangeSet.getElem?_of_not_assigns wide inside updatable unwritten

/-- Preparing an update looks at the snapshot, which agrees with the stored row. -/
theorem Follows.prepare (follows : tracked.Follows updates) (lawful : tracked.Lawful)
    (record : Row) : tracked.Follows (tracked.prepare updates record) := by
  unfold Tracked.prepare
  cases ready : tracked.connection.prepareUpdate updates.world.tracking tracked.thread
      ⟨tracked.entity.name, record⟩ with
  | error error => exact follows
  | ok prepared =>
      refine ⟨follows.database, follows.active, follows.wide, follows.agrees, ?_⟩
      intro pending mem
      rcases List.mem_append.mp mem with earlier | new
      · exact follows.pending pending earlier
      · obtain rfl := List.mem_singleton.mp new
        exact follows.faithful lawful ready

/-! ### Completing an update -/

/-- What completing an update does: one that writes nothing does nothing, and one that writes is
applied by the database and refreshes the snapshot of its key. -/
theorem execute_eq (lawful : tracked.Lawful) {world : World δ}
    (database : world.database = tracked.database) (prepared : PreparedUpdate) :
    (prepared.update = none ∧ (prepared.execute world).2 = world) ∨
    ∃ update, prepared.update = some update ∧
      (prepared.execute world).2 =
        ⟨tracked.database, (tracked.database.answer world.state (.update update)).2,
          prepared.scope.elim world.tracking fun scope =>
            world.tracking.refresh scope prepared.key prepared.record⟩ := by
  cases writes : prepared.update with
  | none =>
      refine .inl ⟨rfl, ?_⟩
      unfold PreparedUpdate.execute
      rw [writes]
      rfl
  | some update =>
      -- a lawful database accepts every update
      obtain ⟨answer, succeeded⟩ := lawful.succeeds world.state update
      have sent : world.send (.update update) = (.ok answer,
          ⟨tracked.database, (tracked.database.answer world.state (.update update)).2,
            world.tracking⟩) := by
        rw [← succeeded, ← database]
        rfl
      exact .inr ⟨update, rfl, by rw [PreparedUpdate.execute_of_ok writes sent]⟩

/-- The levels of the scopes stay as they are. -/
theorem active?_execute (lawful : tracked.Lawful) {world : World δ}
    (database : world.database = tracked.database) (prepared : PreparedUpdate) (thread : ThreadId)
    (manager : ManagerId) :
    (prepared.execute world).2.tracking.active? thread manager =
      world.tracking.active? thread manager := by
  rcases execute_eq lawful database prepared with ⟨-, same⟩ | ⟨update, -, ran⟩
  · rw [same]
  · rw [ran]
    cases prepared.scope with
    | none => rfl
    | some scope =>
        have same : (world.tracking.refresh scope prepared.key prepared.record).SameLevels
            world.tracking := ⟨rfl, world.tracking.depth_refresh scope _ _⟩
        exact same.active? thread manager

/-- The stored row after an update of the instance: what it assigns, and what was stored before. -/
theorem stored_of_own (lawful : tracked.Lawful) (state : δ) {pending : PendingUpdate}
    (faithful : tracked.Faithful pending) (own : pending.prepared.key = tracked.key)
    {update : Update} (writes : pending.prepared.update = some update)
    (wide : (tracked.stored state).length = tracked.entity.columns.length) {column : Nat}
    (inside : column < tracked.entity.columns.length) :
    (tracked.stored (tracked.database.answer state (.update update)).2)[column]? =
      if update.assignments.assigns column then pending.prepared.record[column]?
      else (tracked.stored state)[column]? := by
  obtain ⟨entity, filter⟩ := faithful.addressed update writes
  rw [lawful.applies state update entity (by rw [filter, own])]
  exact Assignments.getElem?_writeTo (faithful.values update writes) (wide.symm ▸ inside)

private theorem length_stored (lawful : tracked.Lawful) (state : δ) {pending : PendingUpdate}
    (faithful : tracked.Faithful pending) {update : Update}
    (writes : pending.prepared.update = some update) :
    (tracked.stored (tracked.database.answer state (.update update)).2).length =
      (tracked.stored state).length := by
  obtain ⟨entity, filter⟩ := faithful.addressed update writes
  by_cases own : update.filter = ChangeSet.keyCondition tracked.entity tracked.key.key
  · rw [lawful.applies state update entity own, Assignments.length_writeTo]
  · rw [lawful.spares state update _ filter own]

/-- An update of another instance leaves the stored row alone. -/
theorem stored_of_other (lawful : tracked.Lawful) (state : δ) {pending : PendingUpdate}
    (faithful : tracked.Faithful pending) (other : pending.prepared.key ≠ tracked.key)
    {update : Update} (writes : pending.prepared.update = some update) :
    tracked.stored (tracked.database.answer state (.update update)).2 = tracked.stored state := by
  obtain ⟨-, filter⟩ := faithful.addressed update writes
  obtain ⟨record, wide, keyed⟩ := lawful.keyed
  refine lawful.spares state update _ filter fun same => other ?_
  rw [filter] at same
  exact (ChangeSet.keyCondition_inj faithful.wide wide faithful.keyed keyed).mp same

/-- The snapshot agrees with the stored row after an update of which it did so before, unless the
update was overtaken. -/
theorem Follows.agrees_execute_iff (follows : tracked.Follows updates) (lawful : tracked.Lawful)
    {pending : PendingUpdate} (faithful : tracked.Faithful pending) :
    tracked.Agrees (pending.prepared.execute updates.world).2 ↔
      ¬ tracked.Overtaken updates.world pending := by
  obtain ⟨snapshot, found, agrees⟩ := follows.agrees
  rcases execute_eq lawful follows.database pending.prepared with
    ⟨nothing, same⟩ | ⟨update, writes, ran⟩
  · rw [same]
    refine iff_of_true follows.agrees ?_
    rintro ⟨-, update, writes, -⟩
    rw [nothing] at writes
    cases writes
  by_cases own : pending.prepared.key = tracked.key
  · -- the snapshot becomes the record, which the stored row agrees with where it was written
    have refreshed : (((pending.prepared.execute updates.world).2.tracking.scopeAt
        tracked.scope).snapshot? tracked.key) =
          some { snapshot with record := pending.prepared.record } := by
      rw [ran, faithful.scope own, own]
      exact Tracking.snapshot?_refresh_self follows.known_scope found _
    have stored : ∀ column < tracked.entity.columns.length,
        tracked.entity.isUpdatable column = true →
          (pending.prepared.record[column]? =
              (tracked.stored (pending.prepared.execute updates.world).2.state)[column]? ↔
            (update.assignments.assigns column = false →
              (tracked.stored updates.world.state)[column]? = pending.seen[column]?)) := by
      intro column inside updatable
      rw [ran, stored_of_own lawful _ faithful own writes follows.wide inside]
      cases assigned : update.assignments.assigns column with
      | true => simp
      | false =>
          rw [faithful.unwritten own update writes column inside updatable assigned]
          simp [eq_comm]
    constructor
    · rintro ⟨after, hafter, agrees⟩ overtaken
      obtain ⟨-, again, hagain, column, inside, updatable, unwritten, changed⟩ := overtaken
      rw [refreshed] at hafter
      cases hafter
      obtain rfl : update = again := Option.some.inj (writes.symm.trans hagain)
      exact changed ((stored column inside updatable).mp (agrees column inside updatable) unwritten)
    · intro current
      refine ⟨_, refreshed, fun column inside updatable => ?_⟩
      refine (stored column inside updatable).mpr fun unwritten => ?_
      by_contra changed
      exact current ⟨own, update, writes, column, inside, updatable, unwritten, changed⟩
  · -- another key is refreshed, and another row is written
    refine iff_of_true ⟨snapshot, ?_, ?_⟩ fun overtaken => own overtaken.1
    · rw [ran, ← found]
      cases pending.prepared.scope with
      | none => rfl
      | some scope => exact Tracking.snapshot?_refresh_of_ne _ _ _ own _
    · rw [ran]
      exact fun column inside updatable => (agrees column inside updatable).trans
        (congrArg (·[column]?) (stored_of_other lawful _ faithful own writes).symm)

/-- If the snapshot agrees after an update as it did before, nothing was overtaken so far. -/
theorem Follows.complete (follows : tracked.Follows updates) (lawful : tracked.Lawful)
    {position : Nat} {pending : PendingUpdate}
    (here : updates.pending[position]? = some pending)
    (agrees : tracked.Agrees (pending.prepared.execute updates.world).2) :
    tracked.Follows ⟨(pending.prepared.execute updates.world).2,
      updates.pending.eraseIdx position⟩ := by
  have faithful := follows.pending pending (List.mem_of_getElem? here)
  refine ⟨?_, ?_, ?_, agrees, fun other mem =>
    follows.pending other (List.mem_of_mem_eraseIdx mem)⟩
  · -- an update that changes nothing is not sent
    rcases execute_eq lawful follows.database pending.prepared with ⟨-, same⟩ | ⟨_, -, ran⟩
    · rw [same]
      exact follows.database
    · rw [ran]
  · exact (active?_execute lawful follows.database pending.prepared _ _).trans follows.active
  · rcases execute_eq lawful follows.database pending.prepared with ⟨-, same⟩ | ⟨_, writes, ran⟩
    · rw [same]
      exact follows.wide
    · rw [ran]
      exact (length_stored lawful _ faithful writes).trans follows.wide

/-! ## Any steps -/

/-- A step completes an update that was overtaken. -/
def CompletesOvertaken (tracked : Tracked δ) (updates : Updates δ) : UpdateStep → Prop
  | .prepare _ => False
  | .complete position => ∃ pending, updates.pending[position]? = some pending ∧
      tracked.Overtaken updates.world pending

/-- One step: the snapshot agrees afterwards unless it completes an update that was overtaken, and
then nothing was overtaken so far. -/
theorem Follows.step (follows : tracked.Follows updates) (lawful : tracked.Lawful)
    (step : UpdateStep) :
    (tracked.Agrees (tracked.step updates step).world ↔
      ¬ tracked.CompletesOvertaken updates step) ∧
    (tracked.Agrees (tracked.step updates step).world →
      tracked.Follows (tracked.step updates step)) := by
  cases step with
  | prepare record =>
      have next := follows.prepare lawful record
      exact ⟨iff_of_true next.agrees id, fun _ => next⟩
  | complete position =>
      have completed : tracked.step updates (.complete position) = updates.complete position := rfl
      rw [completed, Updates.complete]
      cases here : updates.pending[position]? with
      | none =>
          refine ⟨iff_of_true follows.agrees ?_, fun _ => follows⟩
          rintro ⟨pending, absent, -⟩
          rw [here] at absent
          cases absent
      | some pending =>
          have faithful := follows.pending pending (List.mem_of_getElem? here)
          refine ⟨?_, follows.complete lawful here⟩
          rw [follows.agrees_execute_iff lawful faithful]
          simp [CompletesOvertaken, here]

/-- The snapshot agrees with the stored row after every step, exactly when no step completes an
update that was overtaken. -/
theorem Follows.run (follows : tracked.Follows updates) (lawful : tracked.Lawful)
    (steps : List UpdateStep) :
    (∀ earlier later, steps = earlier ++ later →
      tracked.Agrees (tracked.run updates earlier).world) ↔
    ∀ earlier step later, steps = earlier ++ step :: later →
      ¬ tracked.CompletesOvertaken (tracked.run updates earlier) step := by
  induction steps generalizing updates with
  | nil =>
      refine iff_of_true (fun earlier later split => ?_) (by simp)
      obtain ⟨rfl, -⟩ := List.append_eq_nil_iff.mp split.symm
      exact follows.agrees
  | cons first rest ih =>
      obtain ⟨agreesIff, next⟩ := follows.step lawful first
      constructor
      · intro always earlier step later split
        -- a run that agrees throughout agrees after its first step, and goes on from there
        have agrees : tracked.Agrees (tracked.step updates first).world := always [first] rest rfl
        cases earlier with
        | nil =>
            obtain ⟨rfl, rfl⟩ := List.cons.inj split
            exact agreesIff.mp agrees
        | cons again earlier =>
            obtain ⟨rfl, others⟩ := List.cons.inj split
            refine (ih (next agrees)).mp (fun before after between => ?_) earlier step later others
            exact always (first :: before) after (by rw [between]; rfl)
      · intro never earlier later split
        cases earlier with
        | nil => exact follows.agrees
        | cons again earlier =>
            obtain ⟨rfl, others⟩ := List.cons.inj split
            have agrees := agreesIff.mpr (never [] first rest rfl)
            refine (ih (next agrees)).mpr (fun before step after between => ?_) earlier later others
            exact never (first :: before) step after (by rw [between]; rfl)

/-- Take an instance whose snapshot agrees with the stored row wherever an update may write, and any
updates of copies of it, prepared and completed in any order in the scope.  After every step the
snapshot agrees with the stored row, exactly when no update that completes was overtaken: when each
that leaves a column unwritten finds the value that was stored when it was prepared. -/
theorem agrees_iff (lawful : tracked.Lawful) {world : World δ}
    (database : world.database = tracked.database)
    (active : world.tracking.active? tracked.thread tracked.connection.manager =
      some tracked.scope)
    (wide : (tracked.stored world.state).length = tracked.entity.columns.length)
    (agrees : tracked.Agrees world) (steps : List UpdateStep) :
    (∀ earlier later, steps = earlier ++ later →
      tracked.Agrees (tracked.run ⟨world, []⟩ earlier).world) ↔
    ∀ earlier step later, steps = earlier ++ step :: later →
      ¬ tracked.CompletesOvertaken (tracked.run ⟨world, []⟩ earlier) step := by
  have follows : tracked.Follows ⟨world, []⟩ :=
    ⟨database, active, wide, agrees, fun _ mem => absurd mem List.not_mem_nil⟩
  exact follows.run lawful steps

end Tracked

namespace Example

/-- The key of a topic. -/
def agendaKey : EntityKey := ⟨"Topic", .string "t"⟩

/-- The row of the topic with a title and a number of stars. -/
def agendaRow (title : String) (stars : Int32) : Row :=
  [.string "t", .string title, .int32 stars, .null]

/-- Whether a condition selects the topic. -/
def selectsAgenda : Expr → Bool
  | .compare .eq _ (.value (.string id)) => id == "t"
  | _ => false

/-- A database that stores the row of the topic. -/
def agendaDatabase : Database Row where
  answer row
    | .update update =>
        if selectsAgenda update.filter then (.ok (.count 1), update.assignments.writeTo row)
        else (.ok (.count 0), row)
    | .query _ | .transaction _ => (.ok (.count 0), row)

/-- The topic, tracked in a scope of the first thread. -/
def trackedAgenda : Tracked Row :=
  { connection := connection
    thread := 0
    scope := 0
    entity := topic
    key := agendaKey
    database := agendaDatabase
    stored := id }

/-- The topic is stored as it was captured. -/
def agendaWorld : World Row :=
  ⟨agendaDatabase, agendaRow "Old" 5, ⟨[⟨1, [⟨agendaKey, agendaRow "Old" 5⟩]⟩], [⟨0, 0, 0⟩]⟩⟩

private theorem eq_of_selectsAgenda {other : Value}
    (selected : selectsAgenda (ChangeSet.keyCondition topic other) = true) :
    other = .string "t" := by
  have condition : ChangeSet.keyCondition topic other =
      .compare .eq (.column (.local baseAlias 0)) (.value other) := rfl
  rw [condition] at selected
  cases other with
  | string id => rw [beq_iff_eq.mp selected]
  | _ => cases selected

private theorem lawful_trackedAgenda : trackedAgenda.Lawful where
  registered := rfl
  keyed := ⟨agendaRow "Old" 5, rfl, rfl⟩
  succeeds state update := by
    by_cases selected : selectsAgenda update.filter = true
    · exact ⟨.count 1, by simp [trackedAgenda, agendaDatabase, selected]⟩
    · exact ⟨.count 0, by simp [trackedAgenda, agendaDatabase, selected]⟩
  applies state update _ filter := by
    have selected : selectsAgenda update.filter = true := by
      rw [filter]
      rfl
    simp [trackedAgenda, agendaDatabase, selected]
  spares state update other filter different := by
    have unselected : selectsAgenda update.filter = false := by
      rw [Bool.eq_false_iff]
      intro selected
      rw [filter] at selected
      rw [filter, eq_of_selectsAgenda selected] at different
      exact different rfl
    simp [trackedAgenda, agendaDatabase, unselected]

private theorem agrees_agendaWorld : trackedAgenda.Agrees agendaWorld :=
  ⟨_, rfl, fun _ _ _ => rfl⟩

/-- Two copies of the topic are changed and their updates prepared, one for the title and one for
the stars.  When both have completed, the snapshot has the title that was stored before. -/
theorem not_agrees_crossing :
    trackedAgenda.Lawful ∧
      agendaWorld.tracking.active? 0 connection.manager = some trackedAgenda.scope ∧
      trackedAgenda.Agrees agendaWorld ∧
      ¬ trackedAgenda.Agrees (trackedAgenda.run ⟨agendaWorld, []⟩
        [.prepare (agendaRow "New" 5), .prepare (agendaRow "Old" 7), .complete 0,
          .complete 0]).world := by
  refine ⟨lawful_trackedAgenda, rfl, agrees_agendaWorld, ?_⟩
  rintro ⟨snapshot, found, agrees⟩
  obtain rfl : snapshot = ⟨agendaKey, agendaRow "Old" 7⟩ := (Option.some.inj found).symm
  have title : (agendaRow "Old" 7)[1]? = (agendaRow "New" 7)[1]? :=
    agrees 1 (by decide) (by decide)
  simp [agendaRow] at title

/-- An update that is prepared after the other one completed is not overtaken. -/
theorem agrees_in_turn :
    trackedAgenda.Agrees agendaWorld ∧
      ∀ earlier later, [.prepare (agendaRow "New" 5), .complete 0, .prepare (agendaRow "New" 7),
          .complete 0] = earlier ++ later →
        trackedAgenda.Agrees (trackedAgenda.run ⟨agendaWorld, []⟩ earlier).world := by
  refine ⟨agrees_agendaWorld,
    (Tracked.agrees_iff lawful_trackedAgenda rfl rfl rfl agrees_agendaWorld _).mpr ?_⟩
  intro earlier step later split
  -- an update that completes finds the row as it was when it was prepared
  rcases earlier with _ | ⟨first, _ | ⟨second, _ | ⟨third, _ | ⟨fourth, others⟩⟩⟩⟩
  · cases split
    exact id
  · cases split
    rintro ⟨pending, here, -, update, -, column, -, -, -, changed⟩
    cases here
    exact changed rfl
  · cases split
    exact id
  · cases split
    rintro ⟨pending, here, -, update, -, column, -, -, -, changed⟩
    cases here
    exact changed rfl
  · simp at split

end Example

end TrackedQuery
