import TrackedQuery.Proofs.Value.Sameness
import TrackedQuery.Tracking.Scope

/-!
# Keys and the snapshots found under them

A snapshot is found under exactly one key (`EntityKey.foundUnder_iff`), so a store of snapshots is a
map: after a snapshot was put in, its key leads to it and every other key leads where it led before
(`find?_insertSnapshot`).

The key of a row with a value for every column is made of the values of its key columns.  Two such
rows have the same key exactly when they agree on these columns (`ofRecord_eq_iff`).
-/

namespace TrackedQuery

/-! ## Where a key is found -/

namespace EntityKey

/-- A key is found under itself only, provided that its value equals itself: it holds no NaN. -/
theorem foundUnder_iff (stored probe : EntityKey) :
    stored.foundUnder probe = true ↔ stored = probe ∧ probe.key.equal probe.key = true := by
  simp only [foundUnder, Bool.and_eq_true, beq_iff_eq, Value.foundUnder_iff]
  constructor
  · rintro ⟨entity, key, whole⟩
    refine ⟨?_, whole⟩
    cases stored
    cases probe
    simp_all
  · rintro ⟨rfl, whole⟩
    exact ⟨rfl, rfl, whole⟩

end EntityKey

namespace Scope

/-- Putting a snapshot into a store redirects its own key to it, and no other key. -/
theorem find?_insertSnapshot (snapshot : Snapshot) (snapshots : List Snapshot) (key : EntityKey) :
    (insertSnapshot snapshot snapshots).find? (fun stored => stored.key.foundUnder key) =
      if snapshot.key.foundUnder key then some snapshot
      else snapshots.find? (fun stored => stored.key.foundUnder key) := by
  induction snapshots with
  | nil => cases own : snapshot.key.foundUnder key <;> simp [insertSnapshot, own]
  | cons first rest ih =>
      by_cases replaced : first.key.foundUnder snapshot.key = true
      · -- the snapshot takes the place of one of its own key, which no other key leads to
        have samekey : first.key = snapshot.key :=
          ((EntityKey.foundUnder_iff _ _).mp replaced).1
        rw [insertSnapshot, if_pos replaced]
        cases own : snapshot.key.foundUnder key <;> simp [own, samekey]
      · rw [insertSnapshot, if_neg replaced]
        by_cases own : snapshot.key.foundUnder key = true
        · have hkey : snapshot.key = key := ((EntityKey.foundUnder_iff _ _).mp own).1
          have other : first.key.foundUnder key = false := by
            rw [← hkey]
            simpa using replaced
          simp only [List.find?_cons, other, ih, own, if_true]
        · rw [List.find?_cons, ih, if_neg own, if_neg own, List.find?_cons]

theorem snapshot?_capture (scope : Scope) (snapshot : Snapshot) (key : EntityKey) :
    (scope.capture snapshot).snapshot? key =
      if snapshot.key.foundUnder key then some snapshot else scope.snapshot? key :=
  find?_insertSnapshot snapshot scope.snapshots key

theorem mem_insertSnapshot_self (snapshot : Snapshot) (snapshots : List Snapshot) :
    snapshot ∈ insertSnapshot snapshot snapshots := by
  induction snapshots with
  | nil => simp [insertSnapshot]
  | cons first rest ih =>
      by_cases replaced : first.key.foundUnder snapshot.key = true
      · simp [insertSnapshot, replaced]
      · simp [insertSnapshot, replaced, ih]

/-- Putting a snapshot into a store keeps every other one, apart from those of its own key. -/
theorem mem_insertSnapshot_of_mem {snapshot entry : Snapshot} {snapshots : List Snapshot}
    (stored : entry ∈ snapshots) :
    (if entry.key.foundUnder snapshot.key then snapshot else entry) ∈
      insertSnapshot snapshot snapshots := by
  by_cases own : entry.key.foundUnder snapshot.key = true
  · rw [if_pos own]
    exact mem_insertSnapshot_self snapshot snapshots
  rw [if_neg own]
  induction snapshots with
  | nil => cases stored
  | cons first rest ih =>
      by_cases replaced : first.key.foundUnder snapshot.key = true
      · -- a snapshot of another key is not the one that is replaced
        have other : entry ≠ first := by
          rintro rfl
          exact own replaced
        rw [insertSnapshot, if_pos replaced]
        exact List.mem_cons_of_mem _ (List.mem_of_ne_of_mem other stored)
      · rw [insertSnapshot, if_neg replaced]
        rcases List.mem_cons.mp stored with rfl | later
        · exact List.mem_cons_self
        · exact List.mem_cons_of_mem _ (ih later)

/-- Putting a snapshot into a store leaves the snapshots of other keys as they are. -/
theorem mem_insertSnapshot_of_ne {snapshot entry : Snapshot} (other : entry.key ≠ snapshot.key)
    (snapshots : List Snapshot) :
    entry ∈ insertSnapshot snapshot snapshots ↔ entry ∈ snapshots := by
  have apart : entry ≠ snapshot := by
    rintro rfl
    exact other rfl
  induction snapshots with
  | nil => simp [insertSnapshot, apart]
  | cons first rest ih =>
      by_cases replaced : first.key.foundUnder snapshot.key = true
      · -- what is replaced has the key of the snapshot
        have kept : entry ≠ first := by
          rintro rfl
          exact other ((EntityKey.foundUnder_iff _ _).mp replaced).1
        rw [insertSnapshot, if_pos replaced, List.mem_cons, List.mem_cons]
        simp [apart, kept]
      · rw [insertSnapshot, if_neg replaced, List.mem_cons, List.mem_cons]
        exact or_congr_right ih

/-- Refreshing a key leaves the snapshots of other keys as they are. -/
theorem mem_refreshSnapshot_of_ne {key : EntityKey} {entry : Snapshot} (other : entry.key ≠ key)
    (record : Row) (snapshots : List Snapshot) :
    entry ∈ refreshSnapshot key record snapshots ↔ entry ∈ snapshots := by
  induction snapshots with
  | nil => rfl
  | cons first rest ih =>
      by_cases replaced : first.key.foundUnder key = true
      · have same : first.key = key := ((EntityKey.foundUnder_iff _ _).mp replaced).1
        -- neither the old nor the new snapshot of this place has the key of the entry
        have apart : entry ≠ first := by
          rintro rfl
          exact other same
        have rewritten : entry ≠ { first with record := record } := by
          rintro rfl
          exact other same
        rw [refreshSnapshot, if_pos replaced, List.mem_cons, List.mem_cons]
        simp [apart, rewritten]
      · rw [refreshSnapshot, if_neg replaced, List.mem_cons, List.mem_cons]
        exact or_congr_right ih

/-- Refreshing a key rewrites the snapshot of that key, and keeps the others. -/
theorem mem_refreshSnapshot_of_mem {entry : Snapshot} {snapshots : List Snapshot}
    (key : EntityKey) (record : Row) (stored : entry ∈ snapshots) :
    (if entry.key.foundUnder key then { entry with record := record } else entry) ∈
      refreshSnapshot key record snapshots := by
  induction snapshots with
  | nil => cases stored
  | cons first rest ih =>
      by_cases replaced : first.key.foundUnder key = true
      · rw [refreshSnapshot, if_pos replaced]
        by_cases own : entry.key.foundUnder key = true
        · -- two snapshots of one key differ in their rows alone, and the row is replaced
          have sameKey : entry.key = first.key :=
            ((EntityKey.foundUnder_iff _ _).mp own).1.trans
              ((EntityKey.foundUnder_iff _ _).mp replaced).1.symm
          rw [if_pos own, sameKey]
          exact List.mem_cons_self
        · have other : entry ≠ first := by
            rintro rfl
            exact own replaced
          rw [if_neg own]
          exact List.mem_cons_of_mem _ (List.mem_of_ne_of_mem other stored)
      · rw [refreshSnapshot, if_neg replaced]
        rcases List.mem_cons.mp stored with rfl | later
        · rw [if_neg replaced]
          exact List.mem_cons_self
        · exact List.mem_cons_of_mem _ (ih later)

/-- Refreshing a key changes the row that the key leads to, and that of no other key. -/
theorem find?_refreshSnapshot (key : EntityKey) (record : Row) (snapshots : List Snapshot)
    (probe : EntityKey) :
    (refreshSnapshot key record snapshots).find? (fun stored => stored.key.foundUnder probe) =
      (snapshots.find? fun stored => stored.key.foundUnder probe).map fun stored =>
        if key.foundUnder probe then { stored with record := record } else stored := by
  induction snapshots with
  | nil => rfl
  | cons first rest ih =>
      by_cases replaced : first.key.foundUnder key = true
      · obtain ⟨samekey, whole⟩ := (EntityKey.foundUnder_iff _ _).mp replaced
        rw [refreshSnapshot, if_pos replaced]
        cases own : key.foundUnder probe <;> simp [samekey, own]
      · rw [refreshSnapshot, if_neg replaced]
        cases found : first.key.foundUnder probe with
        | false => simp [found, ih]
        | true =>
            -- the probe is the key of the first snapshot, so it is not the key that is refreshed
            obtain ⟨rfl, -⟩ := (EntityKey.foundUnder_iff _ _).mp found
            have other : key.foundUnder first.key = false := by
              rw [Bool.eq_false_iff]
              intro same
              obtain ⟨rfl, whole⟩ := (EntityKey.foundUnder_iff _ _).mp same
              exact replaced ((EntityKey.foundUnder_iff _ _).mpr ⟨rfl, whole⟩)
            simp [found, other]

theorem snapshot?_refresh (scope : Scope) (key : EntityKey) (record : Row) (probe : EntityKey) :
    (scope.refresh key record).snapshot? probe =
      (scope.snapshot? probe).map fun stored =>
        if key.foundUnder probe then { stored with record := record } else stored :=
  find?_refreshSnapshot key record scope.snapshots probe

end Scope

/-! ## Keys of rows -/

namespace Entity

theorem lt_of_mem_primaryKey {entity : Entity} {index : Nat} (key : index ∈ entity.primaryKey) :
    index < entity.columns.length := by
  simp only [primaryKey, List.mem_filter, List.mem_range] at key
  exact key.1

theorem isPrimaryKey_iff {entity : Entity} {index : Nat} :
    entity.isPrimaryKey index = true ↔ index ∈ entity.primaryKey := by
  simp [isPrimaryKey]

/-- A row that reaches all the given columns has a value for each. -/
theorem keyFields_eq_ok_iff (entity : Entity) (record : Row) (indices : List Nat) (fields : Row) :
    entity.keyFields record indices = .ok fields ↔
      indices.map (fun index => record[index]?) = fields.map some := by
  induction indices generalizing fields with
  | nil => cases fields <;> simp [keyFields]
  | cons index rest ih =>
      cases present : record[index]? with
      | none => cases fields <;> simp [keyFields, present, fail]
      | some field =>
          cases hrest : entity.keyFields record rest with
          | error error =>
              -- if the rest of the key cannot be read, then some column of it is missing
              have absent : ∀ others : Row,
                  rest.map (fun index => record[index]?) ≠ others.map some := by
                intro others same
                rw [(ih others).mpr same] at hrest
                cases hrest
              cases fields with
              | nil => simp [keyFields, present, hrest, bind, Except.bind]
              | cons first others => simp [keyFields, present, hrest, bind, Except.bind, absent]
          | ok values =>
              have hvalues := (ih values).mp hrest
              cases fields with
              | nil => simp [keyFields, present, hrest, bind, Except.bind, pure, Except.pure]
              | cons first others =>
                  simp only [keyFields, present, hrest, bind, Except.bind, pure, Except.pure,
                    Except.ok.injEq, List.cons.injEq, List.map_cons, Option.some.injEq, hvalues]
                  rw [List.map_inj_right (fun _ _ same => Option.some.inj same)]

private theorem keyFields_of_wide {entity : Entity} {record : Row}
    (wide : record.length = entity.columns.length) :
    ∃ fields, entity.keyFields record entity.primaryKey = .ok fields ∧
      entity.primaryKey.map (fun index => record[index]?) = fields.map some := by
  -- columns of the key are within the entity, and so within a row that is as wide
  have reached : ∀ indices : List Nat, (∀ index ∈ indices, index < record.length) →
      ∃ fields : Row, indices.map (fun index => record[index]?) = fields.map some := by
    intro indices
    induction indices with
    | nil => exact fun _ => ⟨[], rfl⟩
    | cons index rest ih =>
        intro inside
        obtain ⟨fields, hfields⟩ := ih fun other mem => inside other (List.mem_cons_of_mem _ mem)
        refine ⟨record.get ⟨index, inside index (List.mem_cons_self ..)⟩ :: fields, ?_⟩
        simp [hfields, inside index (List.mem_cons_self ..)]
  obtain ⟨fields, hfields⟩ := reached entity.primaryKey fun index key => by
    rw [wide]
    exact lt_of_mem_primaryKey key
  exact ⟨fields, (keyFields_eq_ok_iff entity record _ fields).mpr hfields, hfields⟩

end Entity

namespace EntityKey

theorem keyValue_inj {left right : Row} (length : left.length = right.length) :
    keyValue left = keyValue right ↔ left = right := by
  match left, right, length with
  | [], [], _ => simp
  | [_], [_], _ => simp [keyValue]
  | _ :: _ :: _, _ :: _ :: _, _ => simp [keyValue]

private theorem equalAll_self_iff (fields : Row) :
    Value.equalAll fields fields = true ↔ ∀ field ∈ fields, field.equal field = true := by
  induction fields with
  | nil => simp [Value.equalAll]
  | cons first rest ih => simp [Value.equalAll, ih]

private theorem keyValue_equal_self_iff (fields : Row) :
    (keyValue fields).equal (keyValue fields) = true ↔
      ∀ field ∈ fields, field.equal field = true := by
  match fields with
  | [] => simp [keyValue, Value.equal, Value.equalAll]
  | [_] => simp [keyValue]
  | _ :: _ :: _ =>
      simp only [keyValue, Value.equal]
      exact equalAll_self_iff _

theorem ofRecord_of_wide {entity : Entity} {record : Row}
    (wide : record.length = entity.columns.length) :
    ∃ fields, ofRecord entity record = .ok ⟨entity.name, keyValue fields⟩ ∧
      entity.primaryKey.map (fun index => record[index]?) = fields.map some := by
  obtain ⟨fields, hfields, values⟩ := Entity.keyFields_of_wide wide
  exact ⟨fields, by simp [ofRecord, hfields, bind, Except.bind, pure, Except.pure], values⟩

/-- Two rows with a value for every column have the same key when they agree on the key columns. -/
theorem ofRecord_eq_iff {entity : Entity} {left right : Row}
    (wideLeft : left.length = entity.columns.length)
    (wideRight : right.length = entity.columns.length) :
    ofRecord entity left = ofRecord entity right ↔
      ∀ index ∈ entity.primaryKey, left[index]? = right[index]? := by
  obtain ⟨lefts, hleft, leftValues⟩ := ofRecord_of_wide wideLeft
  obtain ⟨rights, hright, rightValues⟩ := ofRecord_of_wide wideRight
  have length : lefts.length = rights.length := by
    have := congrArg List.length leftValues
    have := congrArg List.length rightValues
    simp only [List.length_map] at *
    omega
  rw [hleft, hright]
  simp only [Except.ok.injEq, EntityKey.mk.injEq, true_and, keyValue_inj length]
  rw [← List.map_inj_left, leftValues, rightValues,
    List.map_inj_right (fun _ _ same => Option.some.inj same)]

/-- The key of a row equals itself when the value of every key column does. -/
theorem equal_self_iff_of_ofRecord {entity : Entity} {record : Row} {key : EntityKey}
    (wide : record.length = entity.columns.length) (hkey : ofRecord entity record = .ok key) :
    key.key.equal key.key = true ↔
      ∀ index ∈ entity.primaryKey, ∀ value, record[index]? = some value →
        value.equal value = true := by
  obtain ⟨fields, hfields, values⟩ := ofRecord_of_wide wide
  rw [hfields] at hkey
  cases hkey
  rw [keyValue_equal_self_iff]
  -- the fields of the key are the values of the key columns, and no others
  constructor
  · intro whole index key value hvalue
    refine whole value ?_
    have hmem : some value ∈ fields.map some := by
      rw [← values]
      exact List.mem_map.mpr ⟨index, key, hvalue⟩
    simpa using hmem
  · intro whole field hfield
    have hmem : some field ∈ entity.primaryKey.map fun index => record[index]? := by
      rw [values]
      exact List.mem_map.mpr ⟨field, hfield, rfl⟩
    obtain ⟨index, key, hvalue⟩ := List.mem_map.mp hmem
    exact whole index key field hvalue

end EntityKey

end TrackedQuery
