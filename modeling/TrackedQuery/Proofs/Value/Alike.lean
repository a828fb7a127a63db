import TrackedQuery.Value

/-!
# Values that a database does not tell apart

A database compares numbers as numbers, so that the two zeros are one value to it, and it groups a
NaN with itself.  `Value.Alike` says that two values are one to a database: they differ at most in
the sign of zeros, at any depth.  Values that are equal as numbers are alike
(`Value.alike_of_equal`), and so is every value to itself, also one that holds a NaN.
-/

namespace TrackedQuery.Value

mutual

/-- The value with the sign of every zero forgotten. -/
def canonical : Value → Value
  | .float number => .float (if number.isZero then .zero else number)
  | .list items => .list (canonicalAll items)
  | .record fields => .record (canonicalAll fields)
  | .bool value => .bool value
  | .int32 value => .int32 value
  | .int64 value => .int64 value
  | .string value => .string value
  | .null => .null

/-- `canonical` of every value. -/
def canonicalAll : List Value → List Value
  | [] => []
  | value :: rest => value.canonical :: canonicalAll rest

end

/-- A database does not tell the values apart. -/
def Alike (left right : Value) : Prop := left.canonical = right.canonical

namespace Alike

variable {left right first second third : Value}

theorem refl (value : Value) : value.Alike value := Eq.refl value.canonical

theorem symm (alike : left.Alike right) : right.Alike left := Eq.symm alike

theorem trans (now : first.Alike second) (next : second.Alike third) : first.Alike third :=
  Eq.trans now next

end Alike

/-- Only `NULL` is like `NULL`. -/
theorem isNull_canonical (value : Value) : value.canonical.isNull = value.isNull := by
  cases value <;> rfl

theorem Alike.isNull_eq {left right : Value} (alike : left.Alike right) :
    left.isNull = right.isNull := by
  rw [← left.isNull_canonical, ← right.isNull_canonical, alike]

mutual

theorem alike_of_equal : ∀ {left right : Value}, left.equal right = true → left.Alike right
  | .float left, right, same => by
      cases right with
      | float right =>
          simp only [equal, Binary64.numericEq, Bool.and_eq_true, Bool.or_eq_true,
            beq_iff_eq] at same
          -- equal numbers have the same bits, or are two zeros
          obtain ⟨-, bits | ⟨leftZero, rightZero⟩⟩ := same
          · cases left
            cases right
            cases bits
            exact .refl _
          · simp [Alike, canonical, leftZero, rightZero]
      | _ => cases same
  | .list lefts, right, same => by
      cases right with
      | list rights => exact congrArg Value.list (canonicalAll_of_equalAll same)
      | _ => cases same
  | .record lefts, right, same => by
      cases right with
      | record rights => exact congrArg Value.record (canonicalAll_of_equalAll same)
      | _ => cases same
  | .bool _, right, same | .int32 _, right, same | .int64 _, right, same | .string _, right, same
  | .null, right, same => by
      cases right <;> simp_all [equal, Alike]

theorem canonicalAll_of_equalAll : ∀ {lefts rights : List Value},
    equalAll lefts rights = true → canonicalAll lefts = canonicalAll rights
  | [], rights, same => by
      cases rights with
      | nil => rfl
      | cons => cases same
  | left :: lefts, rights, same => by
      cases rights with
      | nil => cases same
      | cons right rights =>
          simp only [equalAll, Bool.and_eq_true] at same
          have first : left.canonical = right.canonical := alike_of_equal same.1
          rw [canonicalAll, canonicalAll, first, canonicalAll_of_equalAll same.2]

end

end TrackedQuery.Value
