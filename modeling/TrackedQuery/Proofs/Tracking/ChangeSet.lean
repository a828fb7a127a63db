import TrackedQuery.Proofs.Result
import TrackedQuery.Proofs.Tracking.Load

/-!
# What an update writes

A change set holds the columns of a row that may be written and are not known to have their value
already (`mem_changesFrom`).  Written to another row, it gives this row the values of the first one
in the columns it assigns, and leaves the others (`getElem?_writeTo`).

The update of a change set names the row to write by its key, and no two keys are named by the same
condition (`keyCondition_inj`).
-/

namespace TrackedQuery

/-! ## Writing to a row -/

namespace Assignments

/-- The row after the assignments were written to it. -/
def writeTo : Assignments → Row → Row
  | [], row => row
  | first :: rest, row => writeTo rest (row.set first.column first.value)

@[simp] theorem length_writeTo (assignments : Assignments) (row : Row) :
    (assignments.writeTo row).length = row.length := by
  induction assignments generalizing row with
  | nil => rfl
  | cons first rest ih => rw [writeTo, ih, List.length_set]

private theorem assigns_cons (first : Assignment) (rest : Assignments) (column : Nat) :
    assigns (first :: rest) column = (first.column == column || assigns rest column) := by
  unfold assigns get?
  rw [List.find?_cons]
  cases first.column == column <;> rfl

private theorem assigns_iff {assignments : Assignments} {column : Nat} :
    assignments.assigns column = true ↔ ∃ assignment ∈ assignments, assignment.column = column := by
  simp [assigns, get?, List.find?_isSome]

/-- Assignments of the values of a record write these where they assign a column, and nothing
elsewhere. -/
theorem getElem?_writeTo {assignments : Assignments} {record row : Row}
    (values : ∀ assignment ∈ assignments, record[assignment.column]? = some assignment.value)
    {column : Nat} (inside : column < row.length) :
    (assignments.writeTo row)[column]? =
      if assignments.assigns column then record[column]? else row[column]? := by
  induction assignments generalizing row with
  | nil => rfl
  | cons first rest ih =>
      obtain ⟨value, others⟩ := List.forall_mem_cons.mp values
      rw [writeTo, ih others (by rwa [List.length_set]), assigns_cons]
      by_cases later : assigns rest column = true
      · simp [later]
      · by_cases here : first.column = column
        · subst here
          simp [later, value, List.getElem?_set_self inside]
        · simp [later, here, List.getElem?_set_ne here]

end Assignments

/-! ## The columns of a change set -/

theorem Entity.isUpdatable_iff {entity : Entity} {index : Nat} :
    entity.isUpdatable index = true ↔
      index ∉ entity.primaryKey ∧ entity.deleteMarkIndex? ≠ some index := by
  simp [isUpdatable, ← isPrimaryKey_iff]

namespace ChangeSet

/-- The columns that change are those that may be written and do not have their value yet. -/
theorem mem_changesFrom {entity : Entity} {known : Option Row} {columns : List Column}
    {record : Row} {start : Nat} {assignment : Assignment} :
    assignment ∈ changesFrom entity known start columns record ↔
      ∃ offset column, columns[offset]? = some column ∧
        record[offset]? = some assignment.value ∧
        assignment.column = start + offset ∧ assignment.name = column.name ∧
        entity.isUpdatable assignment.column = true ∧
        isUnchanged known assignment.column assignment.value = false := by
  induction columns generalizing record start with
  | nil => simp [changesFrom]
  | cons first columns ih =>
      cases record with
      | nil => simp [changesFrom]
      | cons value values =>
          -- the first column stands at the start, and the others one further
          rw [← Nat.or_exists_add_one, changesFrom]
          have rest := @ih values (start + 1)
          simp only [Nat.add_assoc, Nat.add_comm 1] at rest
          simp only [List.getElem?_cons_zero, List.getElem?_cons_succ, Option.some.injEq,
            Nat.add_zero, exists_eq_left', ← rest]
          split
          · next written =>
              rw [List.mem_cons]
              refine or_congr_left ⟨?_, ?_⟩
              · rintro rfl
                simpa using written
              · rintro ⟨hvalue, hcolumn, hname, -⟩
                cases assignment
                simp_all
          · next kept =>
              rw [or_iff_right]
              rintro ⟨rfl, rfl, -, updatable, changed⟩
              simp [updatable, changed] at kept

/-- What is assigned has its value in the record. -/
theorem getElem?_of_mem_changesFrom {entity : Entity} {known : Option Row} {record : Row}
    {assignment : Assignment}
    (mem : assignment ∈ changesFrom entity known 0 entity.columns record) :
    record[assignment.column]? = some assignment.value := by
  obtain ⟨offset, column, -, value, here, -⟩ := mem_changesFrom.mp mem
  rw [here, Nat.zero_add]
  exact value

/-- A column that may be written and is not assigned has its value in the known row. -/
theorem getElem?_of_not_assigns {entity : Entity} {row record : Row}
    (wide : record.length = entity.columns.length) {column : Nat}
    (inside : column < entity.columns.length) (updatable : entity.isUpdatable column = true)
    (unwritten : (changesFrom entity (some row) 0 entity.columns record).assigns column = false) :
    record[column]? = row[column]? := by
  have hcolumn := List.getElem?_eq_getElem inside
  have hvalue : record[column]? = some (record[column]) :=
    List.getElem?_eq_getElem (wide.symm ▸ inside)
  by_contra changed
  have differs : isUnchanged (some row) column record[column] = false := by
    rw [Bool.eq_false_iff, ne_eq, isUnchanged_some_iff, ← hvalue]
    exact fun same => changed same.symm
  -- a column that differs is assigned
  have written : ⟨column, entity.columns[column].name, record[column]⟩ ∈
      changesFrom entity (some row) 0 entity.columns record :=
    mem_changesFrom.mpr
      ⟨column, _, hcolumn, hvalue, (Nat.zero_add _).symm, rfl, updatable, differs⟩
  rw [Assignments.assigns_iff.mpr ⟨_, written, rfl⟩] at unwritten
  cases unwritten

/-! ## The condition on the key -/

private theorem all_inj {left right : List Expr} (length : left.length = right.length) :
    Expr.all left = Expr.all right ↔ left = right := by
  match left, right, length with
  | [], [], _ => simp
  | [_], [_], _ => simp [Expr.all]
  | _ :: _ :: _, _ :: _ :: _, _ => simp [Expr.all]

private theorem zipWith_inj {positions : List Nat} {left right : Row}
    (leftLength : left.length = positions.length) (rightLength : right.length = positions.length) :
    List.zipWith
        (fun index value => Expr.equals (.column (.local baseAlias index)) (.value value))
        positions left =
      List.zipWith
        (fun index value => Expr.equals (.column (.local baseAlias index)) (.value value))
        positions right ↔ left = right := by
  induction positions generalizing left right with
  | nil => simp_all
  | cons index positions ih =>
      match left, right, leftLength, rightLength with
      | first :: left, second :: right, leftLength, rightLength =>
          have rest := ih (Nat.succ.inj leftLength) (Nat.succ.inj rightLength)
          simp only [Expr.equals] at rest ⊢
          simp [rest]

theorem keyFields_keyValue {entity : Entity} {fields : Row}
    (length : fields.length = entity.primaryKey.length) :
    keyFields entity (EntityKey.keyValue fields) = fields := by
  unfold keyFields
  match hkey : entity.primaryKey, fields, length with
  | [], [], _ => simp [EntityKey.keyValue]
  | [_], [_], _ => simp [EntityKey.keyValue]
  | _ :: _ :: _, _ :: _ :: _, _ => simp [EntityKey.keyValue]

/-- Different keys of rows of an entity have different conditions. -/
theorem keyCondition_inj {entity : Entity} {left right : Row} {key other : EntityKey}
    (wideLeft : left.length = entity.columns.length)
    (wideRight : right.length = entity.columns.length)
    (hkey : EntityKey.ofRecord entity left = .ok key)
    (hother : EntityKey.ofRecord entity right = .ok other) :
    keyCondition entity key.key = keyCondition entity other.key ↔ key = other := by
  obtain ⟨lefts, hleft, leftValues⟩ := EntityKey.ofRecord_of_wide wideLeft
  obtain ⟨rights, hright, rightValues⟩ := EntityKey.ofRecord_of_wide wideRight
  cases hkey.symm.trans hleft
  cases hother.symm.trans hright
  have leftLength : lefts.length = entity.primaryKey.length := by
    simpa using (congrArg List.length leftValues).symm
  have rightLength : rights.length = entity.primaryKey.length := by
    simpa using (congrArg List.length rightValues).symm
  simp only [keyCondition, keyFields_keyValue leftLength, keyFields_keyValue rightLength,
    EntityKey.mk.injEq, true_and, EntityKey.keyValue_inj (leftLength.trans rightLength.symm)]
  rw [all_inj (by simp [leftLength, rightLength]), zipWith_inj leftLength rightLength]

end ChangeSet

/-! ## Prepared updates -/

/-- The row that a change set is compared with: the snapshot of the key in the scope of the
thread. -/
def Connection.known (connection : Connection) (tracking : Tracking) (thread : ThreadId)
    (key : EntityKey) : Option Row :=
  (tracking.active? thread connection.manager).bind fun scope =>
    ((tracking.scopeAt scope).snapshot? key).map Snapshot.record

/-- What is prepared for an instance. -/
theorem Connection.prepareUpdate_eq_ok {connection : Connection} {tracking : Tracking}
    {thread : ThreadId} {subject : Instance} {entity : Entity} {prepared : PreparedUpdate}
    (registered : connection.schema.resolve subject.entity = .ok entity)
    (ready : connection.prepareUpdate tracking thread subject = .ok prepared) :
    ∃ key changes, subject.record.length = entity.columns.length ∧
      EntityKey.ofRecord entity subject.record = .ok key ∧
      changes = ChangeSet.changesFrom entity (connection.known tracking thread key) 0
        entity.columns subject.record ∧
      prepared =
        { key := key
          record := subject.record
          scope :=
            if (connection.known tracking thread key).isSome then
              tracking.active? thread connection.manager
            else none
          update :=
            if changes.isEmpty then none
            else some ⟨entity.name, entity.table, changes,
              ChangeSet.keyCondition entity key.key⟩ } := by
  unfold prepareUpdate at ready
  obtain ⟨own, resolved, ready⟩ := Result.bind_eq_ok.mp ready
  obtain rfl := Except.ok.inj (registered.symm.trans resolved)
  obtain ⟨changes, computed, made⟩ := Result.bind_eq_ok.mp ready
  unfold changeSet at computed
  obtain ⟨again, resolved, computed⟩ := Result.bind_eq_ok.mp computed
  obtain rfl := Except.ok.inj (registered.symm.trans resolved)
  obtain ⟨key, hkey, computed⟩ := Result.bind_eq_ok.mp computed
  unfold ChangeSet.compute at computed
  split at computed
  · next wide =>
      rw [hkey] at computed
      cases computed
      cases made
      refine ⟨key, _, wide, hkey, rfl, ?_⟩
      show PreparedUpdate.mk _ _ _ _ = PreparedUpdate.mk _ _ _ _
      congr 1
      -- the scope is noted only if the tracker knows the key
      by_cases tracked : (connection.known tracking thread key).isSome = true
      · rw [if_pos tracked, ← known, if_pos tracked]
      · rw [if_neg tracked, ← known, if_neg tracked]
  · cases computed

end TrackedQuery
