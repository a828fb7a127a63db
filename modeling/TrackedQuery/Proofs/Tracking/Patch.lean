import Mathlib.Data.List.Nodup
import TrackedQuery.Proofs.Tracking.Repeatable

/-!
# Change sets are patches

The change set of a row against a snapshot is the smallest patch that leads from the snapshot to the
row, as far as an update may lead: it writes neither the key nor the column that marks deleted rows
(`compute_exact`).  Equality of values is equality of bits here, at any depth, so a NaN that was not
touched is no change, and a zero whose sign changed is one.

## Strategy

* Columns are visited in order, so those of the changes increase (`columns_changesFrom`), and each
  is assigned once.  This is why an update, which assigns one change after the other, has the
  changes themselves as its assignments (`assignAll_eq`).
* A column that is left out of the assignments keeps the value of the snapshot
  (`getElem?_writeTo_of_not_mem`), and a change is there because that value is another one
  (`getElem?_ne_of_mem_changesFrom`).  Hence whatever leads to the row assigns all the columns that
  change (`columns_subset`).
-/

namespace TrackedQuery

/-! ## Assignments, one after the other -/

namespace Assignments

/-- The assignments that result from assigning one column after the other. -/
def assignAll (changes : List Assignment) : Assignments :=
  changes.foldl (fun made change => made.assign change.column change.name change.value) []

/-- The assignment of a new column comes last. -/
theorem assign_of_not_mem {assignments : Assignments} {column : Nat}
    (fresh : column ∉ assignments.columns) (name : String) (value : Value) :
    assignments.assign column name value = assignments ++ [⟨column, name, value⟩] := by
  induction assignments with
  | nil => rfl
  | cons first rest ih =>
      obtain ⟨other, later⟩ := List.ne_and_not_mem_of_not_mem_cons fresh
      rw [assign, if_neg other.symm, ih later]
      rfl

/-- Assignments to different columns are kept as they are made. -/
theorem assignAll_eq {changes : List Assignment} (distinct : (columns changes).Nodup) :
    assignAll changes = changes := by
  -- by induction with what was assigned before: a fresh column is put at the end
  have onto : ∀ made : Assignments, (columns (made ++ changes)).Nodup →
      changes.foldl (fun made change => made.assign change.column change.name change.value) made =
        made ++ changes := by
    clear distinct
    induction changes with
    | nil => simp
    | cons change changes ih =>
        intro made distinct
        have fresh : change.column ∉ made.columns := by
          intro repeated
          rw [columns, List.map_append, List.nodup_append] at distinct
          exact distinct.2.2 _ repeated change.column (by simp) rfl
        rw [List.foldl_cons, assign_of_not_mem fresh, ih _ (by simpa using distinct)]
        simp
  exact onto [] (by simpa using distinct)

/-- A column that is not assigned keeps its value. -/
theorem getElem?_writeTo_of_not_mem {assignments : Assignments} {column : Nat}
    (unassigned : column ∉ assignments.columns) (row : Row) :
    (assignments.writeTo row)[column]? = row[column]? := by
  induction assignments generalizing row with
  | nil => rfl
  | cons first rest ih =>
      obtain ⟨other, later⟩ := List.ne_and_not_mem_of_not_mem_cons unassigned
      rw [writeTo, ih later, List.getElem?_set_ne other.symm]

end Assignments

/-! ## Patches -/

namespace Entity

/-- A row has the values of a record in every column that is neither part of the key nor the mark of
deleted rows, and in the others those of a snapshot. -/
structure Patched (entity : Entity) (record snapshot row : Row) : Prop where
  updated : ∀ index, index ∉ entity.primaryKey → entity.deleteMarkIndex? ≠ some index →
    row[index]? = record[index]?
  kept : ∀ index, index ∈ entity.primaryKey ∨ entity.deleteMarkIndex? = some index →
    row[index]? = snapshot[index]?

end Entity

namespace ChangeSet

variable {entity : Entity} {record snapshot : Row}

/-- The changes are in the order of their columns. -/
theorem columns_changesFrom (entity : Entity) (known : Option Row) (start : Nat)
    (columns : List Column) (record : Row) :
    (changesFrom entity known start columns record).columns.Pairwise (· < ·) := by
  induction columns generalizing start record with
  | nil => exact .nil
  | cons column columns ih =>
      cases record with
      | nil => exact .nil
      | cons value values =>
          unfold changesFrom
          split
          · refine .cons ?_ (ih (start + 1) values)
            intro later assigned
            obtain ⟨change, mem, rfl⟩ := List.mem_map.mp assigned
            obtain ⟨offset, -, -, -, place, -⟩ := mem_changesFrom.mp mem
            rw [place]
            exact Nat.lt_of_lt_of_le (Nat.lt_succ_self start) (Nat.le_add_right _ _)
          · exact ih (start + 1) values

/-- What changes may be written, and has another value in the snapshot. -/
theorem getElem?_ne_of_mem_changesFrom {change : Assignment}
    (mem : change ∈ changesFrom entity (some snapshot) 0 entity.columns record) :
    entity.isUpdatable change.column = true ∧
      snapshot[change.column]? ≠ record[change.column]? := by
  obtain ⟨-, -, -, -, -, -, updatable, changed⟩ := mem_changesFrom.mp mem
  refine ⟨updatable, ?_⟩
  rw [getElem?_of_mem_changesFrom mem, Ne, ← isUnchanged_some_iff, changed]
  exact Bool.false_ne_true

/-- The changes lead from the snapshot to the record. -/
theorem patched_changesFrom (wide : record.length = entity.columns.length)
    (wideSnapshot : snapshot.length = entity.columns.length) :
    entity.Patched record snapshot
      ((changesFrom entity (some snapshot) 0 entity.columns record).writeTo snapshot) where
  updated index unkeyed unmarked := by
    by_cases inside : index < entity.columns.length
    · rw [Assignments.getElem?_writeTo (fun _ => getElem?_of_mem_changesFrom)
        (wideSnapshot.symm ▸ inside)]
      split
      · rfl
      · next unassigned =>
          exact (getElem?_of_not_assigns wide inside
            (Entity.isUpdatable_iff.mpr ⟨unkeyed, unmarked⟩)
            (Bool.eq_false_iff.mpr unassigned)).symm
    · -- both rows end before this column
      rw [List.getElem?_eq_none (by simp; omega), List.getElem?_eq_none (by omega)]
  kept index fixed := by
    refine Assignments.getElem?_writeTo_of_not_mem ?_ snapshot
    intro assigned
    obtain ⟨change, mem, rfl⟩ := List.mem_map.mp assigned
    obtain ⟨unkeyed, unmarked⟩ :=
      Entity.isUpdatable_iff.mp (getElem?_ne_of_mem_changesFrom mem).1
    exact fixed.elim unkeyed unmarked

/-- Whatever leads from the snapshot to the record assigns every column that changes. -/
theorem columns_subset {assignments : Assignments}
    (leads : entity.Patched record snapshot (assignments.writeTo snapshot)) :
    (changesFrom entity (some snapshot) 0 entity.columns record).columns ⊆
      assignments.columns := by
  intro column changes
  obtain ⟨change, mem, rfl⟩ := List.mem_map.mp changes
  obtain ⟨updatable, changed⟩ := getElem?_ne_of_mem_changesFrom mem
  obtain ⟨unkeyed, unmarked⟩ := Entity.isUpdatable_iff.mp updatable
  by_contra unassigned
  refine changed ?_
  rw [← leads.updated change.column unkeyed unmarked,
    Assignments.getElem?_writeTo_of_not_mem unassigned]

/-- The change set of a record against a snapshot is an exact patch.  Its columns increase.  Written
to the snapshot, it gives the values of the record wherever an update may write, and leaves the rest
of the snapshot as it was.  No change can be left out, and no other assignments do with less
columns.  The update assigns the changes, in their order. -/
theorem compute_exact (wide : record.length = entity.columns.length)
    (wideSnapshot : snapshot.length = entity.columns.length) :
    ∃ changes, compute entity record (some snapshot) = .ok changes ∧
      changes.changes.columns.Pairwise (· < ·) ∧
      entity.Patched record snapshot (changes.changes.writeTo snapshot) ∧
      (∀ before change after, changes.changes = before ++ change :: after →
        ¬ entity.Patched record snapshot (Assignments.writeTo (before ++ after) snapshot)) ∧
      (∀ assignments : Assignments,
        entity.Patched record snapshot (assignments.writeTo snapshot) →
          changes.changes.columns ⊆ assignments.columns) ∧
      (changes.toUpdate entity).assignments = changes.changes ∧
      (changes.toUpdate entity).assignments = Assignments.assignAll changes.changes := by
  obtain ⟨fields, hkey, -⟩ := EntityKey.ofRecord_of_wide wide
  have increasing := columns_changesFrom entity (some snapshot) 0 entity.columns record
  have distinct : (changesFrom entity (some snapshot) 0 entity.columns record).columns.Nodup :=
    increasing.imp Nat.ne_of_lt
  refine ⟨⟨⟨entity.name, EntityKey.keyValue fields⟩, .diff,
    changesFrom entity (some snapshot) 0 entity.columns record⟩, ?_, increasing,
    patched_changesFrom wide wideSnapshot, ?_, fun _ => columns_subset, rfl,
    (Assignments.assignAll_eq distinct).symm⟩
  · rw [compute, if_pos wide, hkey]
    rfl
  · intro before change after split leads
    -- the column of the change that is left out would have to be among the others
    have covered := columns_subset leads
    simp only at split
    rw [split] at covered distinct
    have again := covered (List.mem_map.mpr ⟨change, by simp, rfl⟩)
    simp only [Assignments.columns, List.map_append, List.map_cons] at again distinct
    exact (List.nodup_middle.mp distinct).notMem again

end ChangeSet

namespace Example

/-- A blog whose score is not a number. -/
def scoredRow : Row :=
  [.string "b", .string "Proofs", .null, .int32 1, .float ⟨0x7FF8000000000000⟩, .int32 2,
    .string "a", .bool false]

/-- The blog with another key, another title, the same score, and marked as deleted. -/
def retitledRow : Row :=
  [.string "c", .string "Lemmas", .null, .int32 1, .float ⟨0x7FF8000000000000⟩, .int32 2,
    .string "a", .bool true]

/-- Only the title is written. -/
theorem compute_exact_retitled :
    ∃ changes, ChangeSet.compute blog retitledRow (some scoredRow) = .ok changes ∧
      changes.changes = [⟨1, "title", .string "Lemmas"⟩] ∧
      blog.Patched retitledRow scoredRow (changes.changes.writeTo scoredRow) := by
  have wide : retitledRow.length = blog.columns.length := rfl
  have wideSnapshot : scoredRow.length = blog.columns.length := rfl
  obtain ⟨changes, computed, -, patched, -⟩ := ChangeSet.compute_exact wide wideSnapshot
  refine ⟨changes, computed, ?_, patched⟩
  cases computed
  rfl

end Example

end TrackedQuery
