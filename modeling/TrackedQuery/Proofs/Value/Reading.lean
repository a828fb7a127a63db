import TrackedQuery.Value.Convert

/-!
# Which values are read as others

Reading a value at a type answers the value itself, or fails, with three exceptions: an integer is
read as an integer of the other width, if it fits, and as the nearest floating-point number.
`Reading.converts` names these, and `Reading.load_eq_self_iff` says that there are no others.
-/

namespace TrackedQuery

/-- Whether a value that is read is read as another one. -/
def Scalar.converts : Scalar → Value → Bool
  | .int32, .int64 _ | .int64, .int32 _ | .float, .int32 _ | .float, .int64 _ => true
  | _, _ => false

/-- Whether a value that is read is read as another one. -/
def Reading.converts (reading : Reading) (value : Value) : Bool := reading.scalar.converts value

theorem Scalar.load_eq_self_iff {scalar : Scalar} {value loaded : Value}
    (read : scalar.load value = .ok loaded) : loaded = value ↔ scalar.converts value = false := by
  cases scalar with
  | any =>
      cases read
      simp [Scalar.converts]
  | int32 =>
      cases value with
      | int64 value =>
          simp only [Scalar.load, Value.toInt32] at read
          split at read
          · cases read
            simp [Scalar.converts]
          · cases read
      | int32 value =>
          cases read
          simp [Scalar.converts]
      | _ => cases read
  | _ =>
      cases value <;> cases read <;> simp [Scalar.converts]

/-- A value is read as itself, unless it is converted. -/
theorem Reading.load_eq_self_iff {reading : Reading} {value loaded : Value}
    (read : reading.load value = .ok loaded) :
    loaded = value ↔ reading.converts value = false := by
  unfold Reading.load at read
  split at read
  · next absent =>
      have hnull : value = .null := by
        cases value <;> simp [Value.isNull] at absent
        rfl
      cases read
      subst hnull
      cases hscalar : reading.scalar <;> simp [Reading.converts, Scalar.converts, hscalar]
  · exact Scalar.load_eq_self_iff read

end TrackedQuery
