import TrackedQuery.Example
import TrackedQuery.Proofs.Tracking.Scope
import TrackedQuery.Proofs.Value.Reading
import TrackedQuery.Query.Terminal
import TrackedQuery.Session.Script
import TrackedQuery.Tracking.Update

/-!
# What a tracked load leaves behind

A tracked query captures the rows of its answer and loads its instances from them.  An instance that
is not touched should then have nothing to write.  It has nothing to write exactly when its row
holds the values as the instance does (`Entity.HeldAsIs`): no value of a column that the key or an
update depends on is converted on reading, and no key holds a NaN.

## Strategy

* `loadEach_capture`: of the rows that are loaded one after the other, each is found afterwards
  under its own key, because no later row is captured under the same one.
* `loadFields_getElem`: the instance holds, column by column, what reading the row yields.
* `Connection.Unmodified` says that the change set of an instance compares it with a known row and
  finds no difference; `unmodified_iff_snapshot` spells it out for an instance of full width.
-/

namespace TrackedQuery

/-! ## Change sets without changes -/

namespace ChangeSet

/-- Nothing changes exactly when the known row holds every value that can be written. -/
theorem changesFrom_eq_nil_iff (entity : Entity) (known : Option Row) (columns : List Column)
    (record : Row) (start : Nat) :
    changesFrom entity known start columns record = [] ↔
      ∀ offset column value, columns[offset]? = some column → record[offset]? = some value →
        entity.isUpdatable (start + offset) = true →
          isUnchanged known (start + offset) value = true := by
  induction columns generalizing record start with
  | nil => simp [changesFrom]
  | cons column columns ih =>
      cases record with
      | nil => simp [changesFrom]
      | cons value values =>
          have shift : ∀ offset, start + 1 + offset = start + (offset + 1) := by
            intro offset
            omega
          constructor
          · intro none_changes offset other field hcolumn hfield updatable
            simp only [changesFrom] at none_changes
            split at none_changes
            · cases none_changes
            · next same =>
                cases offset with
                | zero =>
                    simp only [List.getElem?_cons_zero, Option.some.injEq] at hcolumn hfield
                    subst hfield
                    simpa [Nat.add_zero] using
                      (show isUnchanged known start value = true by
                        simp only [Bool.and_eq_true, Bool.not_eq_true', not_and,
                          Bool.not_eq_false] at same
                        exact same updatable)
                | succ offset =>
                    rw [← shift]
                    exact (ih values (start + 1)).mp none_changes offset other field
                      (by simpa using hcolumn) (by simpa using hfield) (by rwa [shift])
          · intro unchanged
            -- the first column stands at the start, and the others one further
            have first := unchanged 0 column value rfl rfl
            have rest := (ih values (start + 1)).mpr fun offset other field hcolumn hfield => by
              rw [shift]
              exact unchanged (offset + 1) other field (by simpa using hcolumn)
                (by simpa using hfield)
            simp only [changesFrom, rest]
            rw [if_neg]
            simpa using first

theorem isUnchanged_some_iff (known : Row) (index : Nat) (value : Value) :
    isUnchanged (some known) index value = true ↔ known[index]? = some value := by
  unfold isUnchanged
  cases present : known[index]? with
  | none => simp [present]
  | some before => simp [present, Value.identical_iff_eq]

end ChangeSet

namespace Connection

/-- The change set of an instance compares it with a known row, and finds no difference. -/
def Unmodified (connection : Connection) (tracking : Tracking) (thread : ThreadId)
    (subject : Instance) : Prop :=
  ∃ changes, connection.changeSet tracking thread subject = .ok changes ∧
    changes.mode = .diff ∧ changes.changes = []

/-- An instance of full width is unmodified when the scope of the thread has a snapshot of its key
that holds each of its values that can be written. -/
theorem unmodified_iff_snapshot {connection : Connection} {tracking : Tracking} {thread : ThreadId}
    {subject : Instance} {entity : Entity} {scope : ScopeId} {key : EntityKey}
    (registered : connection.schema.resolve subject.entity = .ok entity)
    (wide : subject.record.length = entity.columns.length)
    (hkey : EntityKey.ofRecord entity subject.record = .ok key)
    (active : tracking.active? thread connection.manager = some scope) :
    connection.Unmodified tracking thread subject ↔
      ∃ snapshot, (tracking.scopeAt scope).snapshot? key = some snapshot ∧
        ∀ index value, subject.record[index]? = some value → entity.isUpdatable index = true →
          snapshot.record[index]? = some value := by
  -- the change set compares the record with the row that the scope has for its key
  have computed : connection.changeSet tracking thread subject =
      .ok ⟨key,
        if (((tracking.scopeAt scope).snapshot? key).map Snapshot.record).isSome then .diff
        else .full,
        ChangeSet.changesFrom entity
          (((tracking.scopeAt scope).snapshot? key).map Snapshot.record) 0 entity.columns
          subject.record⟩ := by
    simp [changeSet, registered, hkey, active, ChangeSet.compute, wide, bind, Except.bind, pure,
      Except.pure]
  unfold Unmodified
  rw [computed]
  cases found : (tracking.scopeAt scope).snapshot? key with
  | none => simp
  | some snapshot =>
      simp only [Except.ok.injEq, exists_eq_left', Option.map_some, Option.isSome_some, if_true,
        true_and, Option.some.injEq, ChangeSet.changesFrom_eq_nil_iff, Nat.zero_add,
        ChangeSet.isUnchanged_some_iff]
      constructor
      · intro same index value hvalue updatable
        obtain ⟨column, hcolumn⟩ : ∃ column, entity.columns[index]? = some column := by
          have inside : index < entity.columns.length := by
            rw [← wide]
            exact (List.getElem?_eq_some_iff.mp hvalue).1
          exact ⟨_, List.getElem?_eq_getElem inside⟩
        exact same index column value hcolumn hvalue updatable
      · intro same index _ value _ hvalue updatable
        exact same index value hvalue updatable

/-- Executing the update of an unmodified instance sends nothing. -/
theorem Unmodified.execute {δ : Type} {connection : Connection} {thread : ThreadId}
    {subject : Instance} {world : World δ}
    (unmodified : connection.Unmodified world.tracking thread subject) :
    ∃ prepared, connection.prepareUpdate world.tracking thread subject = .ok prepared ∧
      prepared.execute world = (.ok 0, world) := by
  obtain ⟨changes, computed, -, empty⟩ := unmodified
  cases registered : connection.schema.resolve subject.entity with
  | error error => simp [changeSet, registered, bind, Except.bind] at computed
  | ok entity =>
      refine ⟨_, by
        simp only [prepareUpdate, registered, computed, bind, Except.bind, pure, Except.pure]
        rfl, ?_⟩
      simp only [empty, List.isEmpty_nil, if_true]
      rfl

end Connection

/-! ## Reading a row -/

namespace EntityType

/-- The fields that are read have the positions of the values they are read from. -/
theorem loadFields_getElem? {readings : List Reading} {row fields : Row}
    (read : loadFields readings row = .ok fields) {index : Nat} {reading : Reading} {stored : Value}
    (hreading : readings[index]? = some reading) (hstored : row[index]? = some stored) :
    ∃ value, fields[index]? = some value ∧ reading.load stored = .ok value := by
  induction readings generalizing row fields index with
  | nil => simp at hreading
  | cons first readings ih =>
      cases row with
      | nil => simp at hstored
      | cons value values =>
          cases hfirst : first.load value with
          | error error => simp [loadFields, hfirst, bind, Except.bind] at read
          | ok field =>
              cases hrest : loadFields readings values with
              | error error => simp [loadFields, hfirst, hrest, bind, Except.bind] at read
              | ok others =>
                  simp only [loadFields, hfirst, hrest, bind, Except.bind, pure, Except.pure,
                    Except.ok.injEq] at read
                  subst read
                  cases index with
                  | zero =>
                      simp only [List.getElem?_cons_zero, Option.some.injEq] at hreading hstored
                      subst hreading hstored
                      exact ⟨field, rfl, hfirst⟩
                  | succ index => exact ih hrest (by simpa using hreading) (by simpa using hstored)

private theorem length_of_loadFields {readings : List Reading} {row fields : Row}
    (read : loadFields readings row = .ok fields) (wide : row.length = readings.length) :
    fields.length = row.length := by
  induction readings generalizing row fields with
  | nil =>
      cases read
      exact wide.symm
  | cons first readings ih =>
      cases row with
      | nil => simp at wide
      | cons value values =>
          cases hfirst : first.load value with
          | error error => simp [loadFields, hfirst, bind, Except.bind] at read
          | ok field =>
              cases hrest : loadFields readings values with
              | error error => simp [loadFields, hfirst, hrest, bind, Except.bind] at read
              | ok others =>
                  simp only [loadFields, hfirst, hrest, bind, Except.bind, pure, Except.pure,
                    Except.ok.injEq] at read
                  subst read
                  simpa using ih hrest (by simpa using wide)

end EntityType

namespace Entity

/-- The instance loaded from a row holds the values of the row that a key or an update depends on:
none of them is read as another value, and none in the key differs from itself. -/
def HeldAsIs (entity : Entity) (row : Row) : Prop :=
  ∀ (index : Nat) (column : Column) (value : Value), entity.columns[index]? = some column →
    row[index]? = some value →
    (entity.isPrimaryKey index = true →
      column.reading.converts value = false ∧ value.equal value = true) ∧
    (entity.isUpdatable index = true → column.reading.converts value = false)

/-- Two rows have the same key when a store that holds the one finds it under the other. -/
def SameKey (entity : Entity) (left right : Row) : Prop :=
  ∃ leftKey rightKey, EntityKey.ofRecord entity left = .ok leftKey ∧
    EntityKey.ofRecord entity right = .ok rightKey ∧ leftKey.foundUnder rightKey = true

/-- An instance loaded at the declared types of an entity is as wide as its row, and holds at each
position what reading the value there yields. -/
theorem load_ofEntity {entity : Entity} {row : Row} {loaded : Instance}
    (wide : row.length = entity.columns.length)
    (read : (EntityType.ofEntity entity.name entity).load row = .ok loaded) :
    loaded.entity = entity.name ∧ loaded.record.length = entity.columns.length ∧
      ∀ (index : Nat) (column : Column) (value : Value), entity.columns[index]? = some column →
        row[index]? = some value →
        ∃ field, loaded.record[index]? = some field ∧ column.reading.load value = .ok field := by
  unfold EntityType.load EntityType.ofEntity at read
  cases hfields : EntityType.loadFields (entity.columns.map Column.reading) row with
  | error error => simp [hfields, bind, Except.bind] at read
  | ok fields =>
      simp only [hfields, bind, Except.bind, pure, Except.pure, Except.ok.injEq] at read
      subst read
      refine ⟨rfl, ?_, ?_⟩
      · rw [EntityType.length_of_loadFields hfields (by simpa using wide)]
        exact wide
      · intro index column value hcolumn hvalue
        exact EntityType.loadFields_getElem? hfields (by simp [hcolumn]) hvalue

end Entity

/-! ## Loading rows one after the other -/

section LoadEach

variable {entity : Entity} {type : EntityType} {scope : ScopeId} {tracking after : Tracking}
  {rows : List Row} {instances : List Instance}

/-- A row that is loaded was captured before, and the others are loaded after it. -/
theorem loadEach_cons {row : Row}
    (loaded : loadEach entity type (some scope) tracking (row :: rows) = (.ok instances, after)) :
    ∃ key first others, row.length = entity.columns.length ∧
      EntityKey.ofRecord entity row = .ok key ∧ (tracking.scopeAt scope).depth ≠ 0 ∧
      type.load row = .ok first ∧ instances = first :: others ∧
      loadEach entity type (some scope) (tracking.modifyScope scope (·.capture ⟨key, row⟩)) rows =
        (.ok others, after) := by
  unfold loadEach at loaded
  split at loaded
  · next wide =>
      cases hkey : EntityKey.ofRecord entity row with
      | error error => simp [captureRow, hkey, bind, Except.bind] at loaded
      | ok key =>
          by_cases released : (tracking.scopeAt scope).depth = 0
          · simp [captureRow, hkey, bind, Except.bind, Tracking.capture, released, fail] at loaded
          · simp only [captureRow, hkey, bind, Except.bind, Tracking.capture, released,
              if_false] at loaded
            cases hfirst : type.load row with
            | error error => simp [hfirst] at loaded
            | ok first =>
                rw [hfirst] at loaded
                generalize hrest : loadEach entity type (some scope)
                  (tracking.modifyScope scope (·.capture ⟨key, row⟩)) rows = outcome at loaded
                obtain ⟨answer, final⟩ := outcome
                cases answer with
                | error error => simp [Except.map] at loaded
                | ok others =>
                    simp only [Except.map, Prod.mk.injEq, Except.ok.injEq] at loaded
                    obtain ⟨rfl, rfl⟩ := loaded
                    exact ⟨key, first, others, wide, rfl, released, rfl, rfl, hrest⟩
  · simp [fail] at loaded

/-- A tracking that differs from another one in what its scopes captured, and in nothing else. -/
def Tracking.SameLevels (left right : Tracking) : Prop :=
  left.attachments = right.attachments ∧
    ∀ scope, (left.scopeAt scope).depth = (right.scopeAt scope).depth

theorem Tracking.sameLevels_capture (tracking : Tracking) (scope : ScopeId) (snapshot : Snapshot) :
    (tracking.modifyScope scope (·.capture snapshot)).SameLevels tracking :=
  ⟨rfl, depth_modifyScope tracking (fun stored => stored.depth_capture snapshot) scope⟩

theorem Tracking.SameLevels.active? {left right : Tracking} (same : left.SameLevels right)
    (thread : ThreadId) (manager : ManagerId) :
    left.active? thread manager = right.active? thread manager := by
  simp only [Tracking.active?, Tracking.current?, same.1, same.2]

/-- Loading captures rows and changes no level. -/
theorem loadEach_sameLevels
    (loaded : loadEach entity type (some scope) tracking rows = (.ok instances, after)) :
    after.SameLevels tracking := by
  induction rows generalizing tracking instances with
  | nil =>
      cases loaded
      exact ⟨rfl, fun _ => rfl⟩
  | cons row rows ih =>
      obtain ⟨key, first, others, -, -, -, -, -, rest⟩ := loadEach_cons loaded
      have later := ih rest
      have now := tracking.sameLevels_capture scope ⟨key, row⟩
      exact ⟨later.1.trans now.1, fun scope => (later.2 scope).trans (now.2 scope)⟩

/-- Each row becomes the instance at its position. -/
theorem loadEach_getElem?
    (loaded : loadEach entity type (some scope) tracking rows = (.ok instances, after)) :
    instances.length = rows.length ∧
      ∀ (index : Nat) (row : Row) (subject : Instance), rows[index]? = some row →
        instances[index]? = some subject →
          row.length = entity.columns.length ∧ type.load row = .ok subject := by
  induction rows generalizing tracking instances with
  | nil =>
      cases loaded
      simp
  | cons row rows ih =>
      obtain ⟨key, first, others, wide, -, -, hfirst, rfl, rest⟩ := loadEach_cons loaded
      obtain ⟨length, positions⟩ := ih rest
      refine ⟨by simp [length], ?_⟩
      intro index found subject hrow hsubject
      cases index with
      | zero =>
          simp only [List.getElem?_cons_zero, Option.some.injEq] at hrow hsubject
          subst hrow hsubject
          exact ⟨wide, hfirst⟩
      | succ index =>
          exact positions index found subject (by simpa using hrow) (by simpa using hsubject)

/-- A key that no loaded row is found under leads where it led before. -/
theorem loadEach_snapshot?_of_absent {probe : EntityKey}
    (loaded : loadEach entity type (some scope) tracking rows = (.ok instances, after))
    (absent : ∀ row ∈ rows, ∀ key, EntityKey.ofRecord entity row = .ok key →
      key.foundUnder probe = false) :
    (after.scopeAt scope).snapshot? probe = (tracking.scopeAt scope).snapshot? probe := by
  induction rows generalizing tracking instances with
  | nil =>
      cases loaded
      rfl
  | cons row rows ih =>
      obtain ⟨key, first, others, -, hkey, opened, -, -, rest⟩ := loadEach_cons loaded
      rw [ih rest fun other mem => absent other (List.mem_cons_of_mem _ mem),
        Tracking.scopeAt_modifyScope_self (Tracking.known_of_depth opened),
        Scope.snapshot?_capture, absent row (List.mem_cons_self ..) key hkey]
      rfl

/-- A loaded row that no later row replaces is found under its key. -/
theorem loadEach_capture {probe key : EntityKey} {index : Nat} {row : Row}
    (loaded : loadEach entity type (some scope) tracking rows = (.ok instances, after))
    (hrow : rows[index]? = some row) (hkey : EntityKey.ofRecord entity row = .ok key)
    (found : key.foundUnder probe = true)
    (kept : ∀ (later : Nat) (other : Row), index < later → rows[later]? = some other →
      ∀ otherKey, EntityKey.ofRecord entity other = .ok otherKey →
        otherKey.foundUnder probe = false) :
    (after.scopeAt scope).snapshot? probe = some ⟨key, row⟩ := by
  induction rows generalizing tracking instances index with
  | nil => simp at hrow
  | cons first rows ih =>
      obtain ⟨firstKey, head, others, -, hfirst, opened, -, -, rest⟩ := loadEach_cons loaded
      cases index with
      | zero =>
          simp only [List.getElem?_cons_zero, Option.some.injEq] at hrow
          subst hrow
          rw [hfirst] at hkey
          cases hkey
          rw [loadEach_snapshot?_of_absent rest, Tracking.scopeAt_modifyScope_self
            (Tracking.known_of_depth opened), Scope.snapshot?_capture, if_pos found]
          intro other mem otherKey hother
          -- a later row would have to be found under the key to replace the snapshot
          obtain ⟨position, hposition⟩ := List.getElem?_of_mem mem
          exact kept (position + 1) other (by omega) (by simpa using hposition) otherKey hother
      | succ index =>
          refine ih rest (by simpa using hrow) fun later other behind hother => ?_
          exact kept (later + 1) other (by omega) (by simpa using hother)

private theorem rel_of_pairwise_getElem? {α : Type} {related : α → α → Prop} {items : List α}
    (pairwise : items.Pairwise related) {earlier later : Nat} {first second : α}
    (behind : earlier < later) (hfirst : items[earlier]? = some first)
    (hsecond : items[later]? = some second) : related first second := by
  obtain ⟨inside, rfl⟩ := List.getElem?_eq_some_iff.mp hfirst
  obtain ⟨outside, rfl⟩ := List.getElem?_eq_some_iff.mp hsecond
  exact List.pairwise_iff_getElem.mp pairwise earlier later inside outside behind

/-- Of rows with distinct keys each is found under its key. -/
theorem loadEach_capture_of_distinct {key : EntityKey} {index : Nat} {row : Row}
    (loaded : loadEach entity type (some scope) tracking rows = (.ok instances, after))
    (distinct : rows.Pairwise fun left right => ¬ entity.SameKey left right)
    (hrow : rows[index]? = some row) (hkey : EntityKey.ofRecord entity row = .ok key)
    (found : key.foundUnder key = true) :
    (after.scopeAt scope).snapshot? key = some ⟨key, row⟩ := by
  refine loadEach_capture loaded hrow hkey found ?_
  intro later other behind hother otherKey hotherKey
  rw [Bool.eq_false_iff]
  intro collides
  obtain ⟨rfl, -⟩ := (EntityKey.foundUnder_iff _ _).mp collides
  exact rel_of_pairwise_getElem? distinct behind hrow hother ⟨_, _, hkey, hotherKey, collides⟩

/-- A key that was not found before is found under the key of the only row that may have it. -/
theorem loadEach_foundUnder {own key : EntityKey} {index : Nat} {row : Row} {snapshot : Snapshot}
    (loaded : loadEach entity type (some scope) tracking rows = (.ok instances, after))
    (hrow : rows[index]? = some row) (hkey : EntityKey.ofRecord entity row = .ok key)
    (before : (tracking.scopeAt scope).snapshot? own = none)
    (others : ∀ (other : Nat) (row : Row) (key : EntityKey), other ≠ index →
      rows[other]? = some row → EntityKey.ofRecord entity row = .ok key →
        key.foundUnder own = false)
    (hsnapshot : (after.scopeAt scope).snapshot? own = some snapshot) :
    key.foundUnder own = true := by
  by_contra lost
  -- if this row did not leave the snapshot either, then no row did
  have absent : ∀ other ∈ rows, ∀ otherKey, EntityKey.ofRecord entity other = .ok otherKey →
      otherKey.foundUnder own = false := by
    intro other mem otherKey hother
    obtain ⟨position, hposition⟩ := List.getElem?_of_mem mem
    by_cases same : position = index
    · subst same
      rw [hrow] at hposition
      cases hposition
      rw [hkey] at hother
      cases hother
      simpa using lost
    · exact others position other otherKey same hposition hother
  rw [loadEach_snapshot?_of_absent loaded absent, before] at hsnapshot
  cases hsnapshot

end LoadEach

/-! ## A tracked list of instances -/

/-- Nothing was captured under a key before, and only the row at the given position has it. -/
def Entity.OnlyAt (entity : Entity) (captured : Option Snapshot) (rows : List Row) (index : Nat)
    (own : EntityKey) : Prop :=
  captured = none ∧ ∀ (other : Nat) (row : Row) (key : EntityKey), other ≠ index →
    rows[other]? = some row → EntityKey.ofRecord entity row = .ok key → key.foundUnder own = false

/-- A row that is held as it is has the key of its instance, and a store finds that key. -/
theorem Entity.HeldAsIs.ofRecord_eq {entity : Entity} {row : Row} {loaded : Instance}
    {key : EntityKey} (held : entity.HeldAsIs row) (wide : row.length = entity.columns.length)
    (read : (EntityType.ofEntity entity.name entity).load row = .ok loaded)
    (hkey : EntityKey.ofRecord entity row = .ok key) :
    EntityKey.ofRecord entity loaded.record = .ok key ∧ key.foundUnder key = true := by
  obtain ⟨-, length, fields⟩ := load_ofEntity wide read
  -- a row as wide as the entity has a value in every key column
  have at_index : ∀ index ∈ entity.primaryKey, ∃ column value,
      entity.columns[index]? = some column ∧ row[index]? = some value := by
    intro index mem
    have inside := lt_of_mem_primaryKey mem
    exact ⟨_, _, List.getElem?_eq_getElem inside, List.getElem?_eq_getElem (by omega)⟩
  constructor
  · rw [← hkey, EntityKey.ofRecord_eq_iff length wide]
    intro index mem
    obtain ⟨column, value, hcolumn, hvalue⟩ := at_index index mem
    obtain ⟨field, hfield, loads⟩ := fields index column value hcolumn hvalue
    have kept := ((held index column value hcolumn hvalue).1 (isPrimaryKey_iff.mpr mem)).1
    rw [hfield, hvalue, (Reading.load_eq_self_iff loads).mpr kept]
  · refine (EntityKey.foundUnder_iff key key).mpr ⟨rfl, ?_⟩
    rw [EntityKey.equal_self_iff_of_ofRecord wide hkey]
    intro index mem value hvalue
    obtain ⟨column, _, hcolumn, -⟩ := at_index index mem
    exact ((held index column value hcolumn hvalue).1 (isPrimaryKey_iff.mpr mem)).2

/-- A row that is held as it is agrees with its instance wherever an update writes. -/
theorem Entity.HeldAsIs.agrees {entity : Entity} {row : Row} {loaded : Instance}
    (held : entity.HeldAsIs row) (wide : row.length = entity.columns.length)
    (read : (EntityType.ofEntity entity.name entity).load row = .ok loaded) {index : Nat}
    {value : Value} (hvalue : loaded.record[index]? = some value)
    (updatable : entity.isUpdatable index = true) : row[index]? = some value := by
  obtain ⟨-, length, fields⟩ := load_ofEntity wide read
  have inside : index < entity.columns.length := by
    rw [← length]
    exact (List.getElem?_eq_some_iff.mp hvalue).1
  have hcolumn := List.getElem?_eq_getElem inside
  have hstored : row[index]? = some _ := List.getElem?_eq_getElem (by omega)
  obtain ⟨field, hfield, loads⟩ := fields index _ _ hcolumn hstored
  have same := (Reading.load_eq_self_iff loads).mpr ((held index _ _ hcolumn hstored).2 updatable)
  rw [hfield] at hvalue
  rw [← Option.some.inj hvalue, same]
  exact hstored

/-- A row whose key a store finds under the key of its instance, and that agrees with the instance
wherever an update writes, is held as it is. -/
theorem Entity.heldAsIs_of_agrees {entity : Entity} {row : Row} {loaded : Instance}
    {key own : EntityKey} (wide : row.length = entity.columns.length)
    (read : (EntityType.ofEntity entity.name entity).load row = .ok loaded)
    (hkey : EntityKey.ofRecord entity row = .ok key)
    (hown : EntityKey.ofRecord entity loaded.record = .ok own) (found : key.foundUnder own = true)
    (agrees : ∀ (index : Nat) (value : Value), loaded.record[index]? = some value →
      entity.isUpdatable index = true → row[index]? = some value) : entity.HeldAsIs row := by
  obtain ⟨-, length, fields⟩ := load_ofEntity wide read
  obtain ⟨rfl, whole⟩ := (EntityKey.foundUnder_iff key own).mp found
  have sameKeys := (EntityKey.ofRecord_eq_iff length wide).mp (hown.trans hkey.symm)
  have whole := (EntityKey.equal_self_iff_of_ofRecord wide hkey).mp whole
  intro index column value hcolumn hvalue
  obtain ⟨field, hfield, loads⟩ := fields index column value hcolumn hvalue
  -- both rows have one key, and agree in what can be updated
  refine ⟨fun inKey => ?_, fun updatable => ?_⟩
  · have mem := isPrimaryKey_iff.mp inKey
    have same : field = value := by
      have := sameKeys index mem
      rw [hfield, hvalue] at this
      exact Option.some.inj this
    exact ⟨(Reading.load_eq_self_iff loads).mp same, whole index mem value hvalue⟩
  · have same : value = field := by
      have := agrees index field hfield updatable
      rw [hvalue] at this
      exact Option.some.inj this
    exact (Reading.load_eq_self_iff loads).mp same.symm

/-- What the task of a tracked list does with the rows it is answered. -/
theorem run_trackedList {δ : Type} {query : Query} {connection : Connection} {entity : Entity}
    {context : Context} {plan : Plan} {task : Task} {world after : World δ} {thread : ThreadId}
    {rows : List Row} {instances : List Instance} (home : query.home = some connection)
    (registered : connection.schema.resolve entity.name = .ok entity)
    (base : query.base = .ofEntity entity.name entity) (tracked : query.clauses.tracking = true)
    (compiled : query.clauses.compile context none none = .ok plan)
    (started : query.start context world.tracking thread .list = .ok task)
    (answered : (world.send (.query plan)).1 = .ok (.rows rows))
    (ran : task.run world = (.ok (.list instances), after)) :
    ∃ scope, world.tracking.active? thread connection.manager = some scope ∧
      loadEach entity query.base (some scope) world.tracking rows =
        (.ok instances, after.tracking) := by
  have named : query.base.name = entity.name := by rw [base]; rfl
  cases active : world.tracking.active? thread connection.manager with
  | none =>
      simp [Query.start, Query.startLoad, homeOf, home, Query.trackingScope, tracked,
        Tracking.requireActive, active, fail, bind, Except.bind, Except.map] at started
  | some scope =>
      simp only [Query.start, Query.startLoad, homeOf, home, Query.trackingScope, tracked,
        Tracking.requireActive, active, compiled, bind, Except.bind, Except.map, if_true, pure,
        Except.pure, Except.ok.injEq] at started
      subst started
      refine ⟨scope, rfl, ?_⟩
      -- sending the query changes the state of the database alone
      generalize hsent : world.send (.query plan) = sent at answered
      obtain ⟨answer, state⟩ := sent
      have tracking : state.tracking = world.tracking := by
        have := congrArg (fun outcome => outcome.2.tracking) hsent
        exact this.symm
      simp only at answered
      subst answered
      simp only [Task.run, loadPlan, fetchRows, sendOperation, hsent, loadRows, named, registered,
        bind, StateT.bind, pure, Except.bind, Answer.toRows, modifyGet,
        MonadStateOf.modifyGet] at ran
      delta StateT.pure at ran
      simp only [pure, StateT.modifyGet, tracking] at ran
      generalize hload : loadEach entity query.base (some scope) world.tracking rows = outcome
        at ran
      obtain ⟨answer, final⟩ := outcome
      cases answer with
      | error error => cases ran
      | ok found =>
          cases ran
          rfl

/-- Of the instances that a tracked query loads from rows of distinct keys, those have nothing to
write whose rows are held as they are.  Of an instance whose key no other row and no earlier
snapshot has, the converse holds as well: a value that is converted on reading counts as a change,
and an instance with a converted key is not found at all. -/
theorem trackedList_unmodified {δ : Type} {query : Query} {connection : Connection}
    {entity : Entity} {context : Context} {plan : Plan} {task : Task} {world after : World δ}
    {thread : ThreadId} {rows : List Row} {instances : List Instance}
    (home : query.home = some connection)
    (registered : connection.schema.resolve entity.name = .ok entity)
    (base : query.base = .ofEntity entity.name entity) (tracked : query.clauses.tracking = true)
    (compiled : query.clauses.compile context none none = .ok plan)
    (started : query.start context world.tracking thread .list = .ok task)
    (answered : (world.send (.query plan)).1 = .ok (.rows rows))
    (distinct : rows.Pairwise fun left right => ¬ entity.SameKey left right)
    (ran : task.run world = (.ok (.list instances), after)) :
    instances.length = rows.length ∧
      ∀ (index : Nat) (row : Row) (loaded : Instance), rows[index]? = some row →
        instances[index]? = some loaded →
        (entity.HeldAsIs row → connection.Unmodified after.tracking thread loaded ∧
          ∃ prepared, connection.prepareUpdate after.tracking thread loaded = .ok prepared ∧
            prepared.execute after = (.ok 0, after)) ∧
        ((∀ own, EntityKey.ofRecord entity loaded.record = .ok own →
            entity.OnlyAt (world.tracking.snapshot? thread connection.manager own) rows index own) →
          connection.Unmodified after.tracking thread loaded → entity.HeldAsIs row) := by
  obtain ⟨scope, active, loading⟩ :=
    run_trackedList home registered base tracked compiled started answered ran
  obtain ⟨length, positions⟩ := loadEach_getElem? loading
  refine ⟨length, fun index row loaded hrow hloaded => ?_⟩
  obtain ⟨wide, read⟩ := positions index row loaded hrow hloaded
  rw [base] at read
  obtain ⟨entityName, width, -⟩ := Entity.load_ofEntity wide read
  obtain ⟨own, hown⟩ : ∃ own, EntityKey.ofRecord entity loaded.record = .ok own := by
    obtain ⟨values, hvalues, -⟩ := EntityKey.ofRecord_of_wide width
    exact ⟨_, hvalues⟩
  obtain ⟨key, hkey⟩ : ∃ key, EntityKey.ofRecord entity row = .ok key := by
    obtain ⟨values, hvalues, -⟩ := EntityKey.ofRecord_of_wide wide
    exact ⟨_, hvalues⟩
  have stillActive : after.tracking.active? thread connection.manager = some scope := by
    rw [(loadEach_sameLevels loading).active?]
    exact active
  have spelled := Connection.unmodified_iff_snapshot (by rwa [entityName]) width hown stillActive
  refine ⟨fun held => ?_, fun alone unmodified => ?_⟩
  · -- the snapshot under the key of the instance is the row itself
    obtain ⟨sameKey, found⟩ := held.ofRecord_eq wide read hkey
    obtain rfl : key = own := by
      rw [hown] at sameKey
      exact (Except.ok.inj sameKey).symm
    have snapshot := loadEach_capture_of_distinct loading distinct hrow hkey found
    have unmodified : connection.Unmodified after.tracking thread loaded :=
      spelled.mpr ⟨_, snapshot, fun position value => held.agrees wide read⟩
    exact ⟨unmodified, unmodified.execute⟩
  · -- there is a snapshot, and only this row can have left it
    obtain ⟨snapshot, hsnapshot, agrees⟩ := spelled.mp unmodified
    obtain ⟨nothing, others⟩ := alone own hown
    have before : (world.tracking.scopeAt scope).snapshot? own = none := by
      have current : world.tracking.current? thread connection.manager = some scope := by
        unfold Tracking.active? at active
        exact (Option.filter_eq_some_iff.mp active).1
      simpa [Tracking.snapshot?, current] using nothing
    have found := loadEach_foundUnder loading hrow hkey before others hsnapshot
    rw [loadEach_capture loading hrow hkey found fun later other behind hother otherKey hotherKey =>
      others later other otherKey (by omega) hother hotherKey] at hsnapshot
    cases hsnapshot
    exact Entity.heldAsIs_of_agrees wide read hkey hown found agrees

namespace Example

/-- Two rows of topics.  The second one holds its 32-bit number as a 64-bit one. -/
def topicRows : List Row :=
  [[.string "a", .string "Proofs", .int32 5, .null], [.string "b", .string "Lean", .int64 5, .null]]

/-- The topics in these rows. -/
def topics : List Instance :=
  [⟨"Topic", [.string "a", .string "Proofs", .int32 5, .null]⟩,
    ⟨"Topic", [.string "b", .string "Lean", .int32 5, .null]⟩]

/-- A tracked query of all topics. -/
def topicQuery : Query :=
  { base := .ofEntity "Topic" topic
    context := 0
    home := some connection
    tables := [baseAlias]
    clauses := { Clauses.initial with tracking := true } }

/-- The context of the query. -/
def topicContext : Context := .start connection.schema connection.options [] "Topic"

/-- The plan of the query. -/
def topicPlan : Plan :=
  { source := ⟨"Topic", "t_topic", baseAlias, some 0⟩
    joins := []
    filter := none
    projection := topic.baseItems
    groupBy := []
    having := none
    orderBy := []
    window := none
    arms := [] }

/-- The query when it was started. -/
def topicTask : Task :=
  .load connection.schema (.ofEntity "Topic" topic) topicPlan (some 0) (.ok ∘ Outcome.list)

/-- A thread in a tracking scope, and a database that answers the two rows. -/
def topicWorld : World Script :=
  ⟨Script.database, ⟨[.ok (.rows topicRows)], []⟩, ⟨[⟨1, []⟩], [⟨0, 0, 0⟩]⟩⟩

private theorem heldAsIs_first :
    topic.HeldAsIs [.string "a", .string "Proofs", .int32 5, .null] := by
  intro index column value hcolumn hvalue
  match index with
  | 0 | 1 | 2 | 3 =>
      cases hcolumn
      cases hvalue
      decide
  | _ + 4 => cases hvalue

private theorem not_heldAsIs_second :
    ¬ topic.HeldAsIs [.string "b", .string "Lean", .int64 5, .null] := by
  intro held
  exact absurd ((held 2 _ _ rfl rfl).2 (by decide)) (by decide)

/-- The first topic has nothing to write, and the second one has, although both were only loaded. -/
theorem trackedList_unmodified_topics :
    (topicTask.run topicWorld).1 = .ok (.list topics) ∧
      connection.Unmodified (topicTask.run topicWorld).2.tracking 0
        ⟨"Topic", [.string "a", .string "Proofs", .int32 5, .null]⟩ ∧
      ¬ connection.Unmodified (topicTask.run topicWorld).2.tracking 0
        ⟨"Topic", [.string "b", .string "Lean", .int32 5, .null]⟩ := by
  have distinct : topicRows.Pairwise fun left right => ¬ topic.SameKey left right := by
    refine List.pairwise_pair.mpr ?_
    rintro ⟨leftKey, rightKey, hleft, hright, found⟩
    cases hleft
    cases hright
    revert found
    decide
  have home : topicQuery.home = some connection := rfl
  have registered : connection.schema.resolve topic.name = .ok topic := rfl
  have compiled : topicQuery.clauses.compile topicContext none none = .ok topicPlan := rfl
  have started : topicQuery.start topicContext topicWorld.tracking 0 .list = .ok topicTask := rfl
  have answered : (topicWorld.send (.query topicPlan)).1 = .ok (.rows topicRows) := rfl
  have ran : topicTask.run topicWorld = (.ok (.list topics), (topicTask.run topicWorld).2) := rfl
  have positions :=
    (trackedList_unmodified home registered rfl rfl compiled started answered distinct ran).2
  have first := positions 0 _ _ rfl rfl
  have second := positions 1 _ _ rfl rfl
  refine ⟨rfl, (first.1 heldAsIs_first).1, fun unmodified => ?_⟩
  refine not_heldAsIs_second (second.2 (fun own hown => ?_) unmodified)
  cases hown
  refine ⟨rfl, fun other row key elsewhere hrow hkey => ?_⟩
  match other with
  | 0 =>
      cases hrow
      cases hkey
      decide
  | 1 => exact absurd rfl elsewhere
  | _ + 2 => cases hrow

end Example

end TrackedQuery
