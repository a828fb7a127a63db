import Mathlib.Data.List.Basic
import TrackedQuery.Value

/-!
# How the notions of sameness of values relate

`Value.identical` is equality of values: it compares floating-point numbers by their bits, at any
depth.  What a value contributes to a hash determines the value, because every list and tuple
contributes its length before its parts; this is `hashFeed_append_inj`, stated with arbitrary
contributions behind the value, so that the induction goes through the parts of a list.

A keyed store therefore finds a value under exactly one probe, the value itself, and under none when
a NaN is in it (`foundUnder_iff`).
-/

namespace TrackedQuery

theorem Binary64.bits_inj {left right : Binary64} : left.bits = right.bits ↔ left = right :=
  ⟨fun same => by cases left; cases right; cases same; rfl, fun same => same ▸ rfl⟩

namespace Value

/-! ## Identical values are equal -/

mutual

theorem identical_iff_eq : ∀ left right : Value, left.identical right = true ↔ left = right
  | .bool left, right => by cases right <;> simp [identical]
  | .int32 left, right => by cases right <;> simp [identical]
  | .int64 left, right => by cases right <;> simp [identical]
  | .float left, right => by cases right <;> simp [identical, Binary64.bits_inj]
  | .string left, right => by cases right <;> simp [identical]
  | .list left, right => by
      cases right with
      | list right => simpa [identical] using identicalAll_iff_eq left right
      | _ => simp [identical]
  | .record left, right => by
      cases right with
      | record right => simpa [identical] using identicalAll_iff_eq left right
      | _ => simp [identical]
  | .null, right => by cases right <;> simp [identical]

theorem identicalAll_iff_eq : ∀ lefts rights : List Value,
    identicalAll lefts rights = true ↔ lefts = rights
  | [], rights => by cases rights <;> simp [identicalAll]
  | left :: lefts, rights => by
      cases rights with
      | nil => simp [identicalAll]
      | cons right rights =>
          simp [identicalAll, identical_iff_eq left right, identicalAll_iff_eq lefts rights]

end

/-! ## A contribution to a hash determines its value -/

mutual

/-- Values whose contributions start two equal streams are equal, and so is what follows them. -/
theorem hashFeed_append_inj : ∀ (left right : Value) (after after' : List HashItem),
    left.hashFeed ++ after = right.hashFeed ++ after' → left = right ∧ after = after'
  | .bool _, right, after, after' => by
      intro same
      cases right <;> simp_all [hashFeed]
  | .int32 _, right, after, after' => by
      intro same
      cases right <;> simp_all [hashFeed, Int32.toInt_inj]
  | .int64 _, right, after, after' => by
      intro same
      cases right <;> simp_all [hashFeed, Int64.toInt_inj]
  | .float _, right, after, after' => by
      intro same
      cases right <;> simp_all [hashFeed, Binary64.bits_inj]
  | .string _, right, after, after' => by
      intro same
      cases right <;> simp_all [hashFeed]
  | .list lefts, right, after, after' => by
      intro same
      cases right with
      | list rights =>
          -- the length is fed first, so the items end where the rest begins
          simp only [hashFeed, List.cons_append, List.cons.injEq, HashItem.count.injEq,
            true_and] at same
          obtain ⟨items, rest⟩ := hashFeedAll_append_inj lefts rights after after' same.1 same.2
          exact ⟨congrArg Value.list items, rest⟩
      | _ => simp [hashFeed] at same
  | .record lefts, right, after, after' => by
      intro same
      cases right with
      | record rights =>
          simp only [hashFeed, List.cons_append, List.cons.injEq, HashItem.count.injEq,
            true_and] at same
          obtain ⟨fields, rest⟩ := hashFeedAll_append_inj lefts rights after after' same.1 same.2
          exact ⟨congrArg Value.record fields, rest⟩
      | _ => simp [hashFeed] at same
  | .null, right, after, after' => by
      intro same
      cases right <;> simp_all [hashFeed]

/-- Lists of values of one length whose contributions start two equal streams are equal. -/
theorem hashFeedAll_append_inj : ∀ (lefts rights : List Value) (after after' : List HashItem),
    lefts.length = rights.length → hashFeedAll lefts ++ after = hashFeedAll rights ++ after' →
      lefts = rights ∧ after = after'
  | [], rights, after, after' => by
      intro length same
      cases rights with
      | nil => exact ⟨rfl, same⟩
      | cons _ _ => simp at length
  | left :: lefts, rights, after, after' => by
      intro length same
      cases rights with
      | nil => simp at length
      | cons right rights =>
          simp only [hashFeedAll, List.append_assoc] at same
          obtain ⟨first, rest⟩ := hashFeed_append_inj left right _ _ same
          obtain ⟨others, tail⟩ :=
            hashFeedAll_append_inj lefts rights after after' (by simpa using length) rest
          exact ⟨by rw [first, others], tail⟩

end

theorem hashFeed_inj {left right : Value} : left.hashFeed = right.hashFeed ↔ left = right := by
  refine ⟨fun same => ?_, fun same => same ▸ rfl⟩
  exact (hashFeed_append_inj left right [] [] (by simpa using same)).1

/-- A keyed store finds a value under itself only, provided that the value equals itself: it holds
no NaN. -/
theorem foundUnder_iff (stored probe : Value) :
    stored.foundUnder probe = true ↔ stored = probe ∧ probe.equal probe = true := by
  simp only [foundUnder, Bool.and_eq_true, beq_iff_eq, hashFeed_inj]
  constructor
  · rintro ⟨rfl, same⟩
    exact ⟨rfl, same⟩
  · rintro ⟨rfl, same⟩
    exact ⟨rfl, same⟩

end Value

end TrackedQuery
