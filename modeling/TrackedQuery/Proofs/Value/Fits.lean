import Mathlib.Data.List.Forall2
import Mathlib.Tactic.MkIffOfInductiveProp
import TrackedQuery.Value

/-!
# Which values fit a type

A value fits a type if it is of that type all the way down: `NULL` fits every type, every value fits
the type of `NULL`, a truth value and a text fit their own type, a number fits every numeric type,
and lists and tuples fit part by part.  `Value.FitsBy` says so with one thing left open: which items
of a list are looked at.

`Value.isA` judges a value by its inferred type, and a list is typed by its first item that is not
`NULL`.  So it looks at this one item of every list, at any depth, and at all fields of every tuple
(`isA_iff_fitsByFirst`).  No value that fits is refused for it.  But a list is taken whatever its
other items are, unless they are all of one type, as the items of a list should be (`Uniform`).
-/

namespace TrackedQuery

/-- A value fits a type, if only the judged items of lists count. -/
@[mk_iff]
inductive Value.FitsBy (judged : List Value → List Value) : Value → Ty → Prop where
  | null (ty : Ty) : FitsBy judged .null ty
  | anything (value : Value) : FitsBy judged value .null
  | bool (value : Bool) : FitsBy judged (.bool value) .bool
  | int32 (value : Int32) {ty : Ty} (numeric : ty.isNumeric = true) :
      FitsBy judged (.int32 value) ty
  | int64 (value : Int64) {ty : Ty} (numeric : ty.isNumeric = true) :
      FitsBy judged (.int64 value) ty
  | float (value : Binary64) {ty : Ty} (numeric : ty.isNumeric = true) :
      FitsBy judged (.float value) ty
  | string (value : String) : FitsBy judged (.string value) .string
  | list {items : List Value} {ty : Ty} (each : ∀ item ∈ judged items, FitsBy judged item ty) :
      FitsBy judged (.list items) (.list ty)
  | record {fields : List Value} {types : List Ty}
      (each : List.Forall₂ (FitsBy judged) fields types) :
      FitsBy judged (.record fields) (.record types)

namespace Value

/-- A value fits a type, with every item of every list. -/
def Fits : Value → Ty → Prop := FitsBy id

/-- The first item that is not `NULL`, if there is one. -/
def firstPresent (items : List Value) : List Value :=
  (items.find? fun item => !item.isNull).toList

/-- A value fits a type, as far as the first item that is not `NULL` shows in every list. -/
def FitsByFirst : Value → Ty → Prop := FitsBy firstPresent

section

variable {judged fewer : List Value → List Value}

private theorem fitsBy_list_iff {items : List Value} {ty : Ty} :
    FitsBy judged (.list items) (.list ty) ↔ ∀ item ∈ judged items, FitsBy judged item ty :=
  ⟨fun | .list each => each, .list⟩

private theorem fitsBy_record_iff {fields : List Value} {types : List Ty} :
    FitsBy judged (.record fields) (.record types) ↔
      List.Forall₂ (FitsBy judged) fields types :=
  ⟨fun | .record each => each, .record⟩

mutual

/-- A value that fits also does when fewer items count. -/
theorem FitsBy.mono (among : ∀ items, fewer items ⊆ judged items) :
    ∀ {value : Value} {ty : Ty}, FitsBy judged value ty → FitsBy fewer value ty
  | _, _, .null ty => .null ty
  | _, _, .anything value => .anything value
  | _, _, .bool value => .bool value
  | _, _, .int32 value numeric => .int32 value numeric
  | _, _, .int64 value numeric => .int64 value numeric
  | _, _, .float value numeric => .float value numeric
  | _, _, .string value => .string value
  | _, _, .list each => .list fun item mem => FitsBy.mono among (each item (among _ mem))
  | _, _, .record each => .record (FitsBy.mono_each among each)

theorem FitsBy.mono_each (among : ∀ items, fewer items ⊆ judged items) :
    ∀ {fields : List Value} {types : List Ty}, List.Forall₂ (FitsBy judged) fields types →
      List.Forall₂ (FitsBy fewer) fields types
  | _, _, .nil => .nil
  | _, _, .cons first rest => .cons (FitsBy.mono among first) (FitsBy.mono_each among rest)

end

end

/-! ## A list is judged by its first item that is not `NULL` -/

private theorem inferItemTy_eq (items : List Value) :
    inferItemTy items = ((items.find? fun item => !item.isNull).map inferTy).getD .null := by
  induction items with
  | nil => rfl
  | cons item rest ih =>
      rw [inferItemTy, List.find?_cons]
      cases item.isNull <;> simp [ih]

private theorem mem_firstPresent {item : Value} {items : List Value}
    (mem : item ∈ firstPresent items) :
    item ∈ items :=
  List.mem_of_find?_eq_some (Option.mem_toList.mp mem)

private theorem accepts_inferItemTy_iff (ty : Ty) (items : List Value) :
    ty.accepts (inferItemTy items) = true ↔ ∀ item ∈ firstPresent items, item.isA ty = true := by
  rw [inferItemTy_eq, firstPresent]
  cases items.find? fun item => !item.isNull with
  | none => simp [Ty.accepts]
  | some item => simp [isA]

mutual

theorem isA_iff_fitsByFirst : ∀ (value : Value) (ty : Ty),
    value.isA ty = true ↔ value.FitsByFirst ty
  | .null, ty => iff_of_true (by cases ty <;> rfl) (.null ty)
  | .list items, ty => by
      rw [FitsByFirst]
      cases ty with
      | list ty =>
          -- the type of a list is that of its first item that is present
          rw [fitsBy_list_iff, isA, inferTy, Ty.accepts, accepts_inferItemTy_iff]
          exact forall₂_congr fun item mem => isA_items_iff items ty item (mem_firstPresent mem)
      | _ =>
          rw [fitsBy_iff]
          simp [isA, inferTy, Ty.accepts, Ty.isNumeric, Ty.same]
  | .record fields, ty => by
      rw [FitsByFirst]
      cases ty with
      | record types =>
          rw [fitsBy_record_iff, isA, inferTy, Ty.accepts]
          exact acceptsFields_iff fields types
      | _ =>
          rw [fitsBy_iff]
          simp [isA, inferTy, Ty.accepts, Ty.isNumeric, Ty.same]
  | .bool value, ty | .int32 value, ty | .int64 value, ty | .float value, ty
  | .string value, ty => by
      rw [FitsByFirst, fitsBy_iff]
      cases ty <;> simp [isA, inferTy, Ty.accepts, Ty.isNumeric, Ty.same]

theorem isA_items_iff : ∀ (items : List Value) (ty : Ty), ∀ item ∈ items,
    (item.isA ty = true ↔ item.FitsByFirst ty)
  | [], _ => List.forall_mem_nil _
  | item :: rest, ty =>
      List.forall_mem_cons.mpr ⟨isA_iff_fitsByFirst item ty, isA_items_iff rest ty⟩

theorem acceptsFields_iff : ∀ (fields : List Value) (types : List Ty),
    Ty.acceptsFields types (inferFieldTys fields) = true ↔ List.Forall₂ FitsByFirst fields types
  | [], types => by cases types <;> simp [Ty.acceptsFields, inferFieldTys]
  | field :: fields, types => by
      cases types with
      | nil => simp [Ty.acceptsFields, inferFieldTys]
      | cons ty types =>
          rw [inferFieldTys, Ty.acceptsFields, Bool.and_eq_true, List.forall₂_cons,
            acceptsFields_iff fields types]
          exact and_congr_left' (isA_iff_fitsByFirst field ty)

end

/-! ## Lists of one type -/

mutual

/-- All items that are not `NULL` have one type, in every list of the value. -/
def Uniform : Value → Prop
  | .list items =>
      (∀ item ∈ items, item.isNull = false → item.inferTy = inferItemTy items) ∧ UniformAll items
  | .record fields => UniformAll fields
  | _ => True

/-- `Uniform` of every value. -/
def UniformAll : List Value → Prop
  | [] => True
  | value :: rest => value.Uniform ∧ UniformAll rest

end

mutual

/-- In lists of one type every item is as good as the first. -/
theorem fits_of_isA : ∀ {value : Value} {ty : Ty}, value.Uniform → value.isA ty = true →
    value.Fits ty
  | .null, ty, _, _ => .null ty
  | .list items, ty, uniform, accepted => by
      cases ty with
      | null => exact .anything _
      | list ty =>
          refine .list fun item mem => ?_
          cases present : item.isNull with
          | true =>
              cases item with
              | null => exact .null ty
              | _ => cases present
          | false =>
              have typed : item.isA ty = true := by
                rw [isA, uniform.1 item mem present]
                exact accepted
              exact fits_of_isA_items uniform.2 item mem typed
      | _ => cases accepted
  | .record fields, ty, uniform, accepted => by
      cases ty with
      | null => exact .anything _
      | record types => exact .record (fits_of_acceptsFields uniform accepted)
      | _ => cases accepted
  | .bool value, ty, _, accepted | .int32 value, ty, _, accepted | .int64 value, ty, _, accepted
  | .float value, ty, _, accepted | .string value, ty, _, accepted => by
      -- without a list in it, it does not matter which items are judged
      rw [isA_iff_fitsByFirst, FitsByFirst, fitsBy_iff] at accepted
      rw [Fits, fitsBy_iff]
      simpa using accepted

theorem fits_of_isA_items : ∀ {items : List Value} {ty : Ty}, UniformAll items →
    ∀ item ∈ items, item.isA ty = true → item.Fits ty
  | [], _, _ => List.forall_mem_nil _
  | _ :: _, _, uniform =>
      List.forall_mem_cons.mpr ⟨fits_of_isA uniform.1, fits_of_isA_items uniform.2⟩

theorem fits_of_acceptsFields : ∀ {fields : List Value} {types : List Ty}, UniformAll fields →
    Ty.acceptsFields types (inferFieldTys fields) = true → List.Forall₂ Fits fields types
  | [], [], _, _ => .nil
  | [], _ :: _, _, accepted => by cases accepted
  | field :: fields, types, uniform, accepted => by
      cases types with
      | nil => cases accepted
      | cons ty types =>
          rw [inferFieldTys, Ty.acceptsFields, Bool.and_eq_true] at accepted
          exact .cons (fits_of_isA uniform.1 accepted.1)
            (fits_of_acceptsFields uniform.2 accepted.2)

end

/-- A value is of a type just if it fits it, where a list is judged by its first item that is not
`NULL`.  What fits with all items of its lists is never refused, and if the lists hold items of one
type, nothing else is taken. -/
theorem isA_iff_fits (value : Value) (ty : Ty) :
    (value.isA ty = true ↔ value.FitsByFirst ty) ∧
    (value.Fits ty → value.isA ty = true) ∧
    (value.Uniform → (value.isA ty = true ↔ value.Fits ty)) := by
  have taken : value.Fits ty → value.isA ty = true := by
    intro fits
    rw [isA_iff_fitsByFirst]
    exact FitsBy.mono (fun _ _ mem => mem_firstPresent mem) fits
  exact ⟨isA_iff_fitsByFirst value ty, taken, fun uniform => ⟨fits_of_isA uniform, taken⟩⟩

end Value

namespace Example

/-- Names with a list of scores each, some of them missing. -/
def scores : Value :=
  .list [.record [.string "lean", .list [.null, .int32 3, .int32 4]], .null,
    .record [.string "proof", .list [.int32 5, .null]]]

/-- A list of names with their scores. -/
def scoresTy : Ty := .list (.record [.string, .list .int64])

theorem isA_iff_fits_scores :
    scores.Uniform ∧ scores.isA scoresTy = true ∧ scores.Fits scoresTy := by
  obtain ⟨-, -, same⟩ := Value.isA_iff_fits scores scoresTy
  have uniform : scores.Uniform := by
    simp [scores, Value.Uniform, Value.UniformAll, Value.isNull, Value.inferTy, Value.inferItemTy,
      Value.inferFieldTys]
  have taken : scores.isA scoresTy = true := by decide
  exact ⟨uniform, taken, (same uniform).mp taken⟩

/-- A text behind a number is taken for an item of a list of numbers. -/
theorem not_fits_mixed :
    ¬ (Value.isA (.list [.int32 1, .string "x"]) (.list .int32) = true ↔
      Value.Fits (.list [.int32 1, .string "x"]) (.list .int32)) := by
  intro same
  have fits : Value.Fits (.list [.int32 1, .string "x"]) (.list .int32) := same.mp (by decide)
  have text : Value.Fits (.string "x") .int32 := Value.fitsBy_list_iff.mp fits _ (by simp)
  cases text

end Example

end TrackedQuery
