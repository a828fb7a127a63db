import TrackedQuery.Proofs.Query.Meaning
import TrackedQuery.Proofs.Tracking.Load
import TrackedQuery.Proofs.Value.Types

/-!
# Projections that may be stacked

A set operation stacks the rows of two plans if their items unify one by one
(`checkUnion_eq_ok_iff`, `Item.compatible_iff_forall₂`).  So a projection behaves as the type of its
rows does: the check takes two plans in both orders or in neither (`checkUnion_comm`), and whatever
passes the check of a projection fits together exactly if that projection is free of `null`
(`Item.nullFree_iff_compatible`).  `compatibility_laws` puts these together with the laws of the two
relations between types.
-/

namespace TrackedQuery

/-! ## Projections -/

namespace Item

private theorem compatible_eq_unifiesFields : ∀ lefts rights : List Item,
    compatible lefts rights = Ty.unifiesFields (shape lefts) (shape rights)
  | [], [] | [], _ :: _ | _ :: _, [] => rfl
  | left :: lefts, right :: rights => by
      rw [compatible, compatible_eq_unifiesFields lefts rights]
      rfl

theorem compatible_iff_forall₂ {lefts rights : List Item} :
    compatible lefts rights = true ↔
      List.Forall₂ (fun left right => left.ty.unifies right.ty = true) lefts rights := by
  induction lefts generalizing rights with
  | nil => cases rights <;> simp [compatible]
  | cons left lefts ih => cases rights <;> simp [compatible, ih]

theorem length_of_compatible {lefts rights : List Item} (fit : compatible lefts rights = true) :
    rights.length = lefts.length :=
  (compatible_iff_forall₂.mp fit).length_eq.symm

theorem unifies_of_compatible {lefts rights : List Item} (fit : compatible lefts rights = true)
    {position : Nat} {left right : Item} (hleft : lefts[position]? = some left)
    (hright : rights[position]? = some right) : left.ty.unifies right.ty = true := by
  obtain ⟨inside_left, rfl⟩ := List.getElem?_eq_some_iff.mp hleft
  obtain ⟨inside_right, rfl⟩ := List.getElem?_eq_some_iff.mp hright
  exact (compatible_iff_forall₂.mp fit).get inside_left inside_right

private theorem nullFreeFields_shape {items : List Item} :
    Ty.nullFreeFields (shape items) = true ↔ ∀ item ∈ items, item.ty.nullFree = true := by
  induction items with
  | nil => simp [shape, Ty.nullFreeFields]
  | cons item rest ih =>
      rw [List.forall_mem_cons, ← ih]
      exact Bool.and_eq_true_iff

/-- A projection is free of `null` exactly if whatever is compatible with it is compatible with each
other. -/
theorem nullFree_iff_compatible {items : List Item} :
    (∀ item ∈ items, item.ty.nullFree = true) ↔
      ∀ lefts rights : List Item, compatible items lefts = true → compatible items rights = true →
        compatible lefts rights = true := by
  simp only [compatible_eq_unifiesFields, ← nullFreeFields_shape]
  constructor
  · intro free lefts rights first second
    exact @Ty.unifies_of_nullFree (.record _) (.record _) (.record _) free first second
  intro composes
  by_contra nulls
  obtain ⟨lefts, rights, first, second, clash⟩ :=
    Ty.exists_clashFields (Bool.eq_false_iff.mpr nulls)
  -- any expressions of the clashing types do
  have shaped : ∀ types : List Ty, shape (types.map fun ty => ⟨.value .null, ty⟩) = types := by
    intro types
    simp [shape, Function.comp_def]
  have unified := composes (lefts.map fun ty => ⟨.value .null, ty⟩)
    (rights.map fun ty => ⟨.value .null, ty⟩) (by rwa [shaped]) (by rwa [shaped])
  rw [shaped, shaped, clash] at unified
  cases unified

private theorem compatible_comm (lefts rights : List Item) :
    compatible lefts rights = compatible rights lefts := by
  rw [compatible_eq_unifiesFields, compatible_eq_unifiesFields]
  exact Ty.unifies_comm (.record _) (.record _)

end Item

/-! ## The check of a set operation -/

theorem checkUnion_eq_ok_iff {left right : Plan} :
    checkUnion left right = .ok () ↔ Item.compatible left.projection right.projection = true := by
  unfold checkUnion
  split
  · next fit => exact iff_of_true rfl fit
  · next clash => exact iff_of_false (fun passed => by cases passed) clash

theorem checkUnion_comm (left right : Plan) :
    checkUnion left right = .ok () ↔ checkUnion right left = .ok () := by
  rw [checkUnion_eq_ok_iff, checkUnion_eq_ok_iff, Item.compatible_comm]

/-- Acceptance and unification are reflexive and symmetric, what unifies is accepted, and types
without `null` unify exactly if they are equal.  Types unify if they can be filled in to one type,
and are accepted if they unify once numbers are widened.  The check of a set operation asks that the
items unify one by one, so that it takes two plans in both orders or in neither. -/
theorem compatibility_laws :
    (∀ ty : Ty, ty.accepts ty = true ∧ ty.unifies ty = true) ∧
    (∀ left right : Ty, (left.accepts right = true ↔ right.accepts left = true) ∧
      (left.unifies right = true ↔ right.unifies left = true)) ∧
    (∀ left right : Ty, left.unifies right = true → left.accepts right = true) ∧
    (∀ left right : Ty, left.nullFree = true → right.nullFree = true →
      (left.unifies right = true ↔ left = right)) ∧
    (∀ left right : Ty,
      (left.unifies right = true ↔ ∃ ty : Ty, ty.Fills left ∧ ty.Fills right) ∧
      (left.accepts right = true ↔ left.widened.unifies right.widened = true)) ∧
    ∀ left right : Plan,
      (checkUnion left right = .ok () ↔
        List.Forall₂ (fun upper lower => upper.ty.unifies lower.ty = true)
          left.projection right.projection) ∧
      (checkUnion left right = .ok () ↔ checkUnion right left = .ok ()) := by
  refine ⟨fun ty => ⟨ty.accepts_self, ty.unifies_self⟩, fun left right => ⟨?_, ?_⟩,
    fun _ _ => Ty.accepts_of_unifies, fun _ _ => Ty.unifies_iff_eq,
    fun left right => ⟨Ty.unifies_iff_fills, ?_⟩,
    fun left right => ⟨?_, checkUnion_comm left right⟩⟩
  · rw [Ty.accepts_comm]
  · rw [Ty.unifies_comm]
  · rw [Ty.accepts_eq_unifies_widened]
  · rw [checkUnion_eq_ok_iff, Item.compatible_iff_forall₂]

namespace Example

/-- The plan of a projection to one item, with arms. -/
def topicItemPlan (item : Item) (arms : List Arm) : Plan :=
  { topicPlan with projection := [item], arms := arms }

/-- The plan of a projection to one column. -/
def topicColumnPlan (column : Nat) (ty : Ty) : Plan :=
  topicItemPlan ⟨.column (.local baseAlias column), ty⟩ []

/-- A key of a text and a list of numbers of a type. -/
def keyOf (number : Ty) : Ty := .record [.string, .list number]

/-- Below a list in a tuple, a missing type unifies with a number and is accepted by it, while two
widths of numbers are accepted and do not unify. -/
theorem compatibility_laws_nested :
    (keyOf .null).unifies (keyOf .int32) = true ∧ (keyOf .null).accepts (keyOf .int32) = true ∧
    (keyOf .int32).nullFree = true ∧ (keyOf .int64).nullFree = true ∧
    (keyOf .int32).accepts (keyOf .int64) = true ∧ (keyOf .int32).unifies (keyOf .int64) = false ∧
    checkUnion (topicItemPlan ⟨.null, .null⟩ []) (topicColumnPlan 1 .string) = .ok () ∧
    checkUnion (topicColumnPlan 1 .string) (topicItemPlan ⟨.null, .null⟩ []) = .ok () := by
  obtain ⟨-, -, included, equal, -, checks⟩ := compatibility_laws
  have missing : (keyOf .null).unifies (keyOf .int32) = true := rfl
  have passed : checkUnion (topicItemPlan ⟨.null, .null⟩ []) (topicColumnPlan 1 .string) = .ok () :=
    rfl
  have apart : (keyOf .int32).unifies (keyOf .int64) = false := by
    refine Bool.eq_false_iff.mpr fun fit => ?_
    cases (equal (keyOf .int32) (keyOf .int64) rfl rfl).mp fit
  exact ⟨missing, included _ _ missing, rfl, rfl, rfl, apart, passed, (checks _ _).2.mp passed⟩

end Example

end TrackedQuery
