import Mathlib.Data.List.Forall2
import TrackedQuery.Ty

/-!
# Laws of types

A `null` in a type, at any depth, stands for whatever type may be found there (`Ty.Fills`).  Two
types unify if both can be filled in to one type (`Ty.unifies_iff_fills`), and one accepts the other
if they unify once all numeric types are made one (`Ty.accepts_eq_unifies_widened`).  So the two
relations differ in numbers alone, and at every depth in the same way.

## Strategy

Filling in is the notion that carries the laws, since the recursion of `Ty.unifies` is opened once,
in `Ty.exists_fills` and `Ty.Fills.unifies`:

* every type fills in itself, and the two sides of unification play one part, so that it is
  reflexive and symmetric (`Ty.unifies_self`, `Ty.unifies_comm`);
* filling in leaves a type without `null` as it is, so that such types unify only if they are equal
  (`Ty.unifies_iff_eq`) and pass unification on (`Ty.unifies_of_nullFree`);
* it stays filling in when numbers are widened, so that what unifies is accepted
  (`Ty.accepts_of_unifies`), and the laws of unification carry over to acceptance.

Unification is not transitive, for `null` stands between any two types (`Ty.exists_clash`).
-/

namespace TrackedQuery

namespace Ty

mutual

theorem same_self : ∀ ty : Ty, ty.same ty = true
  | .bool | .int32 | .int64 | .float | .string | .null => rfl
  | .list item => same_self item
  | .record fields => sameFields_self fields

theorem sameFields_self : ∀ fields : List Ty, sameFields fields fields = true
  | [] => rfl
  | first :: rest => by
      rw [sameFields, same_self first, sameFields_self rest]
      rfl

end

/-! ## Filling in -/

/-- The first type is the second one with a type in place of each `null`, which may be `null`
again. -/
inductive Fills : Ty → Ty → Prop where
  | null (ty : Ty) : Fills ty .null
  | bool : Fills .bool .bool
  | int32 : Fills .int32 .int32
  | int64 : Fills .int64 .int64
  | float : Fills .float .float
  | string : Fills .string .string
  | list {ty item : Ty} (fills : Fills ty item) : Fills (.list ty) (.list item)
  | record {types fields : List Ty} (each : List.Forall₂ Fills types fields) :
      Fills (.record types) (.record fields)

mutual

theorem fills_self : ∀ ty : Ty, ty.Fills ty
  | .bool => .bool
  | .int32 => .int32
  | .int64 => .int64
  | .float => .float
  | .string => .string
  | .null => .null _
  | .list item => .list item.fills_self
  | .record fields => .record (fills_self_each fields)

theorem fills_self_each : ∀ fields : List Ty, List.Forall₂ Fills fields fields
  | [] => .nil
  | field :: rest => .cons field.fills_self (fills_self_each rest)

end

@[simp] theorem unifies_null_left (ty : Ty) : Ty.null.unifies ty = true := by cases ty <;> rfl

@[simp] theorem unifies_null_right (ty : Ty) : ty.unifies .null = true := by cases ty <;> rfl

private theorem unifies_list_iff {item other : Ty} :
    (Ty.list item).unifies other = true ↔
      other = .null ∨ ∃ found, other = .list found ∧ item.unifies found = true := by
  cases other <;> simp [unifies, same]

private theorem unifies_record_iff {fields : List Ty} {other : Ty} :
    (Ty.record fields).unifies other = true ↔
      other = .null ∨ ∃ found, other = .record found ∧ unifiesFields fields found = true := by
  cases other <;> simp [unifies, same]

mutual

/-- Types that unify can be filled in to one type. -/
theorem exists_fills : ∀ {left right : Ty}, left.unifies right = true →
    ∃ ty : Ty, ty.Fills left ∧ ty.Fills right
  | .null, right, _ => ⟨right, .null right, right.fills_self⟩
  | .list left, right, fit => by
      rcases unifies_list_iff.mp fit with rfl | ⟨right, rfl, fit⟩
      · exact ⟨.list left, fills_self _, .null _⟩
      · obtain ⟨ty, fills_left, fills_right⟩ := @exists_fills left right fit
        exact ⟨.list ty, .list fills_left, .list fills_right⟩
  | .record lefts, right, fit => by
      rcases unifies_record_iff.mp fit with rfl | ⟨rights, rfl, fit⟩
      · exact ⟨.record lefts, fills_self _, .null _⟩
      · obtain ⟨types, fills_lefts, fills_rights⟩ := @exists_fills_each lefts rights fit
        exact ⟨.record types, .record fills_lefts, .record fills_rights⟩
  | .bool, right, fit | .int32, right, fit | .int64, right, fit | .float, right, fit
  | .string, right, fit => by
      -- a type without parts unifies with itself and with `null` alone
      refine ⟨_, fills_self _, ?_⟩
      cases right <;> cases fit <;> constructor

theorem exists_fills_each : ∀ {lefts rights : List Ty}, unifiesFields lefts rights = true →
    ∃ types : List Ty, List.Forall₂ Fills types lefts ∧ List.Forall₂ Fills types rights
  | [], [], _ => ⟨[], .nil, .nil⟩
  | [], _ :: _, fit => by cases fit
  | _ :: _, [], fit => by cases fit
  | left :: lefts, right :: rights, fit => by
      rw [unifiesFields, Bool.and_eq_true] at fit
      obtain ⟨ty, fills_left, fills_right⟩ := exists_fills fit.1
      obtain ⟨types, fills_lefts, fills_rights⟩ := exists_fills_each fit.2
      exact ⟨ty :: types, .cons fills_left fills_lefts, .cons fills_right fills_rights⟩

end

mutual

/-- Types that can be filled in to one type unify. -/
theorem Fills.unifies : ∀ {ty left right : Ty}, ty.Fills left → ty.Fills right →
    left.unifies right = true
  | _, _, right, .null _, _ => unifies_null_left right
  | _, left, _, _, .null _ => unifies_null_right left
  | _, _, _, .bool, .bool | _, _, _, .int32, .int32 | _, _, _, .int64, .int64
  | _, _, _, .float, .float | _, _, _, .string, .string => rfl
  | _, _, _, @list ty left fills_left, @list _ right fills_right =>
      @Fills.unifies ty left right fills_left fills_right
  | _, _, _, @record types lefts fills_lefts, @record _ rights fills_rights =>
      @Fills.unifies_each types lefts rights fills_lefts fills_rights

theorem Fills.unifies_each : ∀ {types lefts rights : List Ty}, List.Forall₂ Fills types lefts →
    List.Forall₂ Fills types rights → unifiesFields lefts rights = true
  | _, _, _, .nil, .nil => rfl
  | _, _, _, .cons fills_left fills_lefts, .cons fills_right fills_rights => by
      rw [unifiesFields, Bool.and_eq_true]
      exact ⟨Fills.unifies fills_left fills_right, Fills.unifies_each fills_lefts fills_rights⟩

end

theorem unifies_iff_fills {left right : Ty} :
    left.unifies right = true ↔ ∃ ty : Ty, ty.Fills left ∧ ty.Fills right := by
  constructor
  · exact exists_fills
  · rintro ⟨ty, fills_left, fills_right⟩
    exact fills_left.unifies fills_right

theorem unifies_self (ty : Ty) : ty.unifies ty = true := ty.fills_self.unifies ty.fills_self

theorem unifies_comm (left right : Ty) : left.unifies right = right.unifies left := by
  rw [Bool.eq_iff_iff, unifies_iff_fills, unifies_iff_fills]
  exact exists_congr fun _ => and_comm

/-! ## Types without `null` -/

mutual

/-- Whether `null` does not occur in the type. -/
def nullFree : Ty → Bool
  | .null => false
  | .list item => item.nullFree
  | .record fields => nullFreeFields fields
  | _ => true

/-- `nullFree` of every field. -/
def nullFreeFields : List Ty → Bool
  | [] => true
  | field :: rest => field.nullFree && nullFreeFields rest

end

mutual

theorem Fills.eq_of_nullFree : ∀ {ty found : Ty}, ty.Fills found → found.nullFree = true →
    ty = found
  | _, _, .null _, free => by cases free
  | _, _, .bool, _ | _, _, .int32, _ | _, _, .int64, _ | _, _, .float, _ | _, _, .string, _ => rfl
  | _, _, .list fills, free => congrArg Ty.list (Fills.eq_of_nullFree fills free)
  | _, _, .record each, free => congrArg Ty.record (Fills.eq_of_nullFree_each each free)

theorem Fills.eq_of_nullFree_each : ∀ {types fields : List Ty}, List.Forall₂ Fills types fields →
    nullFreeFields fields = true → types = fields
  | _, _, .nil, _ => rfl
  | _, _, .cons first rest, free => by
      rw [nullFreeFields, Bool.and_eq_true] at free
      rw [Fills.eq_of_nullFree first free.1, Fills.eq_of_nullFree_each rest free.2]

end

theorem unifies_iff_eq {left right : Ty} (free_left : left.nullFree = true)
    (free_right : right.nullFree = true) : left.unifies right = true ↔ left = right := by
  constructor
  · intro fit
    obtain ⟨ty, fills_left, fills_right⟩ := unifies_iff_fills.mp fit
    calc left = ty := (fills_left.eq_of_nullFree free_left).symm
      _ = right := fills_right.eq_of_nullFree free_right
  · rintro rfl
    exact unifies_self left

/-- A type without `null` fills in whatever it unifies with. -/
theorem fills_of_nullFree {ty other : Ty} (free : ty.nullFree = true)
    (fit : ty.unifies other = true) : ty.Fills other := by
  obtain ⟨found, fills_ty, fills_other⟩ := unifies_iff_fills.mp fit
  rwa [fills_ty.eq_of_nullFree free] at fills_other

/-- Types that unify with a type without `null` unify with each other. -/
theorem unifies_of_nullFree {ty left right : Ty} (free : ty.nullFree = true)
    (first : ty.unifies left = true) (second : ty.unifies right = true) :
    left.unifies right = true :=
  (fills_of_nullFree free first).unifies (fills_of_nullFree free second)

mutual

/-- A type with `null` unifies with two types that do not unify with each other. -/
theorem exists_clash : ∀ {ty : Ty}, ty.nullFree = false → ∃ left right : Ty,
    ty.unifies left = true ∧ ty.unifies right = true ∧ left.unifies right = false
  | .null, _ => ⟨.bool, .string, rfl, rfl, rfl⟩
  | .list item, nulls => by
      obtain ⟨left, right, first, second, clash⟩ := @exists_clash item nulls
      exact ⟨.list left, .list right, first, second, clash⟩
  | .record fields, nulls => by
      obtain ⟨lefts, rights, first, second, clash⟩ := @exists_clashFields fields nulls
      exact ⟨.record lefts, .record rights, first, second, clash⟩
  | .bool, nulls | .int32, nulls | .int64, nulls | .float, nulls | .string, nulls => by cases nulls

theorem exists_clashFields : ∀ {types : List Ty}, nullFreeFields types = false →
    ∃ lefts rights : List Ty, unifiesFields types lefts = true ∧
      unifiesFields types rights = true ∧ unifiesFields lefts rights = false
  | [], nulls => by cases nulls
  | ty :: types, nulls => by
      have fields_self : unifiesFields types types = true := unifies_self (.record types)
      cases head : ty.nullFree with
      | false =>
          obtain ⟨left, right, first, second, clash⟩ := exists_clash head
          refine ⟨left :: types, right :: types, ?_, ?_, ?_⟩
          · simp [unifiesFields, first, fields_self]
          · simp [unifiesFields, second, fields_self]
          · simp [unifiesFields, clash]
      | true =>
          have rest : nullFreeFields types = false := by simpa [nullFreeFields, head] using nulls
          obtain ⟨lefts, rights, first, second, clash⟩ := exists_clashFields rest
          refine ⟨ty :: lefts, ty :: rights, ?_, ?_, ?_⟩
          · simp [unifiesFields, first, unifies_self]
          · simp [unifiesFields, second, unifies_self]
          · simp [unifiesFields, clash]

end

/-! ## Accepting is unifying up to the width of numbers -/

mutual

/-- The type with the widest numeric type in place of every numeric type. -/
def widened : Ty → Ty
  | .int32 | .int64 | .float => .float
  | .list item => .list item.widened
  | .record fields => .record (widenedFields fields)
  | .bool => .bool
  | .string => .string
  | .null => .null

/-- `widened` of every field. -/
def widenedFields : List Ty → List Ty
  | [] => []
  | field :: rest => field.widened :: widenedFields rest

end

@[simp] theorem accepts_null_left (ty : Ty) : Ty.null.accepts ty = true := by cases ty <;> rfl

mutual

theorem accepts_eq_unifies_widened : ∀ left right : Ty,
    left.accepts right = left.widened.unifies right.widened
  | .null, right => by rw [accepts_null_left, widened, unifies_null_left]
  | .list left, right => by
      cases right with
      | list right => exact left.accepts_eq_unifies_widened right
      | _ => rfl
  | .record lefts, right => by
      cases right with
      | record rights => exact acceptsFields_eq_unifiesFields_widened lefts rights
      | _ => rfl
  | .bool, right | .int32, right | .int64, right | .float, right | .string, right => by
      cases right <;> rfl

theorem acceptsFields_eq_unifiesFields_widened : ∀ lefts rights : List Ty,
    acceptsFields lefts rights = unifiesFields (widenedFields lefts) (widenedFields rights)
  | [], [] | [], _ :: _ | _ :: _, [] => rfl
  | left :: lefts, right :: rights => by
      rw [acceptsFields, widenedFields, widenedFields, unifiesFields,
        left.accepts_eq_unifies_widened right, acceptsFields_eq_unifiesFields_widened lefts rights]

end

theorem accepts_comm (left right : Ty) : left.accepts right = right.accepts left := by
  rw [accepts_eq_unifies_widened, unifies_comm, ← accepts_eq_unifies_widened]

mutual

theorem Fills.widened : ∀ {ty found : Ty}, ty.Fills found → ty.widened.Fills found.widened
  | _, _, .null _ => .null _
  | _, _, .bool => .bool
  | _, _, .int32 | _, _, .int64 | _, _, .float => .float
  | _, _, .string => .string
  | _, _, .list fills => .list (Fills.widened fills)
  | _, _, .record each => .record (Fills.widened_each each)

theorem Fills.widened_each : ∀ {types fields : List Ty}, List.Forall₂ Fills types fields →
    List.Forall₂ Fills (widenedFields types) (widenedFields fields)
  | _, _, .nil => .nil
  | _, _, .cons first rest => .cons (Fills.widened first) (Fills.widened_each rest)

end

theorem accepts_of_unifies {left right : Ty} (fit : left.unifies right = true) :
    left.accepts right = true := by
  obtain ⟨ty, fills_left, fills_right⟩ := unifies_iff_fills.mp fit
  rw [accepts_eq_unifies_widened]
  exact fills_left.widened.unifies fills_right.widened

theorem accepts_self (ty : Ty) : ty.accepts ty = true := accepts_of_unifies ty.unifies_self

end Ty

end TrackedQuery
