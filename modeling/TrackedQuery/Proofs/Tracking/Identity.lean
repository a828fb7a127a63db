import TrackedQuery.Proofs.Tracking.Key
import TrackedQuery.Proofs.Value.Alike

/-!
# Equal values, equal hashes, and identities that are found again

A value is compared as numbers are and hashed as bits are, so that the two notions part on the two
kinds of numbers that the comparison treats specially, at any depth of lists and tuples: a NaN is
unlike itself, and the two zeros are equal but hash apart.  These are the only exceptions.  Equality
is symmetric and transitive, it is reflexive on the values without a NaN, and equal values hash
alike exactly if the zeros in them have the same signs (`equality_contract`).

## Strategy

The numbers in a value are listed from left to right (`Value.numbers`).  Two values are equal
exactly if a database takes them for one, `Value.Alike`, and no number in them is a NaN
(`Value.equal_iff`): `Alike` is an equivalence, which leaves reflexivity as the only law that can
fail.  Two values that are alike are the same exactly if their zeros have the same signs
(`Value.Alike.eq_iff`), and what a value contributes to a hash determines the value.
-/

namespace TrackedQuery

/-! ## Numbers -/

namespace Binary64

/-- The two zeros differ in their signs only. -/
theorem eq_of_isZero {left right : Binary64} (leftZero : left.isZero = true)
    (rightZero : right.isZero = true) (signs : left.isNegative = right.isNegative) :
    left = right := by
  have leftBound := left.bits.toNat_lt
  have rightBound := right.bits.toNat_lt
  have alike := Bool.eq_iff_iff.mp signs
  simp only [isZero, isNegative, exponentField, fractionField, powerOfTwo, exponentBits,
    fractionBits, Bool.and_eq_true, beq_iff_eq, Nat.pow_eq, Nat.reducePow, Nat.reduceAdd]
    at leftZero rightZero alike
  rw [← bits_inj, ← UInt64.toNat_inj]
  omega

private theorem isNaN_zero : zero.isNaN = false := by decide

private theorem isZero_zero : zero.isZero = true := by decide

/-- No zero is a NaN: the two have different exponents. -/
theorem isNaN_of_isZero {number : Binary64} (isZero : number.isZero = true) :
    number.isNaN = false := by
  simp only [Binary64.isZero, Bool.and_eq_true, beq_iff_eq] at isZero
  simp [isNaN, isZero.1, topExponent]

end Binary64

namespace Value

/-! ## The numbers in a value -/

mutual

/-- The floating-point numbers in a value, at any depth, from left to right. -/
def numbers : Value → List Binary64
  | .float number => [number]
  | .list items => numbersAll items
  | .record fields => numbersAll fields
  | .bool _ | .int32 _ | .int64 _ | .string _ | .null => []

/-- The floating-point numbers in several values. -/
def numbersAll : List Value → List Binary64
  | [] => []
  | value :: rest => value.numbers ++ numbersAll rest

end

/-- The signs of the zeros among some numbers. -/
def signsOf (numbers : List Binary64) : List Bool :=
  (numbers.filter Binary64.isZero).map Binary64.isNegative

/-- The signs of the zeros in a value, from left to right. -/
def zeroSigns (value : Value) : List Bool := signsOf value.numbers

private theorem signsOf_append (first second : List Binary64) :
    signsOf (first ++ second) = signsOf first ++ signsOf second := by
  simp [signsOf]

/-- No number in the value is a NaN. -/
def NoNaN (value : Value) : Prop := ∀ number ∈ value.numbers, number.isNaN = false

/-! ## Values that are alike -/

/-- The number with the sign of a zero forgotten. -/
def unsigned (number : Binary64) : Binary64 := if number.isZero then .zero else number

private theorem isNaN_unsigned (number : Binary64) : (unsigned number).isNaN = number.isNaN := by
  cases zero : number.isZero with
  | true => simp [unsigned, zero, Binary64.isNaN_zero, Binary64.isNaN_of_isZero zero]
  | false => simp [unsigned, zero]

theorem isZero_unsigned (number : Binary64) : (unsigned number).isZero = number.isZero := by
  cases zero : number.isZero <;> simp [unsigned, zero, Binary64.isZero_zero]

mutual

theorem numbers_canonical : ∀ value : Value,
    value.canonical.numbers = value.numbers.map unsigned
  | .float _ => rfl
  | .list items => numbersAll_canonicalAll items
  | .record fields => numbersAll_canonicalAll fields
  | .bool _ | .int32 _ | .int64 _ | .string _ | .null => rfl

theorem numbersAll_canonicalAll : ∀ values : List Value,
    numbersAll (canonicalAll values) = (numbersAll values).map unsigned
  | [] => rfl
  | value :: rest => by
      rw [canonicalAll, numbersAll, numbersAll, numbers_canonical value,
        numbersAll_canonicalAll rest, List.map_append]

end

private theorem noNaN_canonical_iff (value : Value) : value.canonical.NoNaN ↔ value.NoNaN := by
  simp [NoNaN, numbers_canonical, isNaN_unsigned]

/-- Values that are alike hold a NaN both or neither. -/
theorem Alike.noNaN_iff {left right : Value} (alike : left.Alike right) :
    left.NoNaN ↔ right.NoNaN := by
  rw [← left.noNaN_canonical_iff, ← right.noNaN_canonical_iff, alike]

/-- Numbers that agree up to the signs of zeros have equally many zeros. -/
theorem length_signsOf {lefts rights : List Binary64}
    (same : lefts.map unsigned = rights.map unsigned) :
    (signsOf lefts).length = (signsOf rights).length := by
  have zeros : ∀ numbers : List Binary64,
      (signsOf numbers).length = ((numbers.map unsigned).filter Binary64.isZero).length := by
    intro numbers
    rw [signsOf, List.length_map, List.filter_map, List.length_map]
    exact congrArg (fun keep => (numbers.filter keep).length)
      (funext fun number => (isZero_unsigned number).symm)
  rw [zeros, zeros, same]

mutual

/-- Values that are alike, and whose zeros have the same signs, are the same. -/
theorem eq_of_alike : ∀ {left right : Value}, left.Alike right →
    left.zeroSigns = right.zeroSigns → left = right
  | .float left, right, alike, signs => by
      cases right with
      | float right =>
          have same : unsigned left = unsigned right := Value.float.inj alike
          -- the sign is dropped from zeros alone, so it is the sign that tells two zeros apart
          have zeros : left.isZero = right.isZero := by
            rw [← isZero_unsigned, same, isZero_unsigned]
          cases zero : left.isZero with
          | true =>
              have signs : left.isNegative = right.isNegative := by
                simpa [zeroSigns, signsOf, numbers, zero, ← zeros] using signs
              exact congrArg Value.float (Binary64.eq_of_isZero zero (zeros ▸ zero) signs)
          | false =>
              rw [unsigned, unsigned, ← zeros, zero] at same
              exact congrArg Value.float same
      | _ => cases alike
  | .list lefts, right, alike, signs => by
      cases right with
      | list rights => exact congrArg Value.list (eq_of_alikeAll (Value.list.inj alike) signs)
      | _ => cases alike
  | .record lefts, right, alike, signs => by
      cases right with
      | record rights =>
          exact congrArg Value.record (eq_of_alikeAll (Value.record.inj alike) signs)
      | _ => cases alike
  | .bool _, right, alike, _ | .int32 _, right, alike, _ | .int64 _, right, alike, _
  | .string _, right, alike, _ | .null, right, alike, _ => by
      cases right <;> first | exact alike | cases alike

/-- The same of several values. -/
theorem eq_of_alikeAll : ∀ {lefts rights : List Value},
    canonicalAll lefts = canonicalAll rights →
      signsOf (numbersAll lefts) = signsOf (numbersAll rights) → lefts = rights
  | [], rights, alike, _ => by
      cases rights with
      | nil => rfl
      | cons => cases alike
  | left :: lefts, rights, alike, signs => by
      cases rights with
      | nil => cases alike
      | cons right rights =>
          rw [canonicalAll, canonicalAll, List.cons.injEq] at alike
          rw [numbersAll, numbersAll, signsOf_append, signsOf_append] at signs
          -- the first values have equally many zeros, so the signs are divided at one place
          have length : left.zeroSigns.length = right.zeroSigns.length :=
            length_signsOf (by rw [← numbers_canonical, alike.1, numbers_canonical])
          obtain ⟨first, others⟩ := List.append_inj signs length
          rw [eq_of_alike alike.1 first, eq_of_alikeAll alike.2 others]

end

theorem Alike.eq_iff {left right : Value} (alike : left.Alike right) :
    left = right ↔ left.zeroSigns = right.zeroSigns :=
  ⟨fun same => same ▸ rfl, eq_of_alike alike⟩

/-! ## Equality -/

private theorem numericEq_iff (left right : Binary64) :
    left.numericEq right = true ↔ unsigned left = unsigned right ∧ left.isNaN = false := by
  simp only [Binary64.numericEq, Bool.and_eq_true, Bool.or_eq_true, Bool.not_eq_true',
    beq_iff_eq, Binary64.bits_inj]
  constructor
  · rintro ⟨⟨leftNumber, -⟩, rfl | ⟨leftZero, rightZero⟩⟩
    · exact ⟨rfl, leftNumber⟩
    · exact ⟨by simp [unsigned, leftZero, rightZero], leftNumber⟩
  · rintro ⟨same, leftNumber⟩
    -- dropping the sign of a zero makes no number of what is none
    have rightNumber : right.isNaN = false := by
      rw [← isNaN_unsigned, ← same, isNaN_unsigned, leftNumber]
    have zeros : left.isZero = right.isZero := by
      rw [← isZero_unsigned, same, isZero_unsigned]
    refine ⟨⟨leftNumber, rightNumber⟩, ?_⟩
    cases zero : left.isZero with
    | true => exact .inr ⟨rfl, zeros ▸ zero⟩
    | false =>
        rw [unsigned, unsigned, ← zeros, zero] at same
        exact .inl same

private theorem noNaN_list_iff {items : List Value} :
    (Value.list items).NoNaN ↔ ∀ number ∈ numbersAll items, number.isNaN = false :=
  Iff.rfl

private theorem noNaN_record_iff {fields : List Value} :
    (Value.record fields).NoNaN ↔ ∀ number ∈ numbersAll fields, number.isNaN = false :=
  Iff.rfl

mutual

/-- Two values are equal exactly if they are alike and hold no NaN. -/
theorem equal_iff : ∀ left right : Value,
    left.equal right = true ↔ left.Alike right ∧ left.NoNaN
  | .float left, right => by
      cases right with
      | float right =>
          rw [equal, numericEq_iff]
          simp [Alike, canonical, unsigned, NoNaN, numbers]
      | _ => simp [equal, Alike, canonical]
  | .list lefts, right => by
      cases right with
      | list rights =>
          rw [equal, equalAll_iff lefts rights, noNaN_list_iff]
          simp [Alike, canonical]
      | _ => simp [equal, Alike, canonical]
  | .record lefts, right => by
      cases right with
      | record rights =>
          rw [equal, equalAll_iff lefts rights, noNaN_record_iff]
          simp [Alike, canonical]
      | _ => simp [equal, Alike, canonical]
  | .bool _, right | .int32 _, right | .int64 _, right | .string _, right | .null, right => by
      cases right <;> simp [equal, Alike, canonical, NoNaN, numbers]

/-- The same of several values. -/
theorem equalAll_iff : ∀ lefts rights : List Value,
    equalAll lefts rights = true ↔
      canonicalAll lefts = canonicalAll rights ∧
        ∀ number ∈ numbersAll lefts, number.isNaN = false
  | [], rights => by cases rights <;> simp [equalAll, canonicalAll, numbersAll]
  | left :: lefts, rights => by
      cases rights with
      | nil => simp [equalAll, canonicalAll]
      | cons right rights =>
          simp only [equalAll, Bool.and_eq_true, equal_iff left right,
            equalAll_iff lefts rights, canonicalAll, numbersAll, List.cons.injEq,
            List.forall_mem_append]
          exact and_and_and_comm

end

theorem equal_self_iff (value : Value) : value.equal value = true ↔ value.NoNaN := by
  simp [equal_iff, Alike.refl]

private theorem equal_comm (left right : Value) : left.equal right = right.equal left := by
  rw [Bool.eq_iff_iff, equal_iff, equal_iff]
  constructor
  · rintro ⟨alike, whole⟩
    exact ⟨alike.symm, alike.noNaN_iff.mp whole⟩
  · rintro ⟨alike, whole⟩
    exact ⟨alike.symm, alike.noNaN_iff.mp whole⟩

private theorem equal_trans {first second third : Value} (now : first.equal second = true)
    (next : second.equal third = true) : first.equal third = true := by
  obtain ⟨alike, whole⟩ := (equal_iff _ _).mp now
  exact (equal_iff _ _).mpr ⟨alike.trans ((equal_iff _ _).mp next).1, whole⟩

/-- Equal values hash alike exactly if their zeros have the same signs. -/
theorem hashFeed_eq_iff_of_equal {left right : Value} (same : left.equal right = true) :
    left.hashFeed = right.hashFeed ↔ left.zeroSigns = right.zeroSigns := by
  rw [hashFeed_inj]
  exact (alike_of_equal same).eq_iff

/-- A keyed store finds what it holds under an equal probe whose zeros have the same signs. -/
theorem foundUnder_iff_equal (stored probe : Value) :
    stored.foundUnder probe = true ↔
      stored.equal probe = true ∧ stored.zeroSigns = probe.zeroSigns := by
  rw [foundUnder, Bool.and_eq_true, beq_iff_eq, and_comm]
  exact and_congr_right hashFeed_eq_iff_of_equal

end Value

/-! ## Captured identities -/

namespace Scope

/-- What a scope finds under a key was captured under it. -/
theorem foundUnder_of_snapshot? {scope : Scope} {key : EntityKey} {snapshot : Snapshot}
    (found : scope.snapshot? key = some snapshot) : snapshot.key.foundUnder key = true :=
  List.find?_some (p := fun stored : Snapshot => stored.key.foundUnder key) found

/-- Captures of other keys do not change what is found under a key. -/
theorem snapshot?_captures {key : EntityKey} {later : List Snapshot}
    (others : ∀ next ∈ later, next.key ≠ key) (scope : Scope) :
    (later.foldl capture scope).snapshot? key = scope.snapshot? key := by
  induction later generalizing scope with
  | nil => rfl
  | cons next rest ih =>
      have other : ¬ next.key.foundUnder key = true := fun found =>
        others next List.mem_cons_self ((EntityKey.foundUnder_iff _ _).mp found).1
      rw [List.foldl_cons, ih (fun next mem => others next (List.mem_cons_of_mem _ mem)),
        snapshot?_capture, if_neg other]

/-- A snapshot is found under the keys that its own key is found under. -/
theorem snapshot?_capture_eq_some_iff (scope : Scope) (snapshot : Snapshot) (key : EntityKey) :
    (scope.capture snapshot).snapshot? key = some snapshot ↔
      snapshot.key.foundUnder key = true := by
  refine ⟨foundUnder_of_snapshot?, fun found => ?_⟩
  rw [snapshot?_capture, if_pos found]

end Scope

/-- The contract of equality and hashing, and where it ends.  A value equals itself exactly if no
number in it is a NaN; equality is symmetric and transitive; equal values hash alike exactly if
their zeros have the same signs.  A key that a scope captured is found again, after any captures of
other keys, under the keys that are equal to it and whose zeros have the same signs. -/
theorem equality_contract (first second third : Value) (scope : Scope) (entity : String)
    (record : Row) (later : List Snapshot) (others : ∀ next ∈ later, next.key ≠ ⟨entity, second⟩) :
    (first.equal first = true ↔ ∀ number ∈ first.numbers, number.isNaN = false) ∧
      first.equal second = second.equal first ∧
      (first.equal second = true → second.equal third = true → first.equal third = true) ∧
      (first.equal second = true →
        (first.hashFeed = second.hashFeed ↔ first.zeroSigns = second.zeroSigns)) ∧
      ((later.foldl Scope.capture (scope.capture ⟨⟨entity, first⟩, record⟩)).snapshot?
            ⟨entity, second⟩ = some ⟨⟨entity, first⟩, record⟩ ↔
        first.equal second = true ∧ first.zeroSigns = second.zeroSigns) := by
  refine ⟨first.equal_self_iff, first.equal_comm second, Value.equal_trans,
    Value.hashFeed_eq_iff_of_equal, ?_⟩
  rw [Scope.snapshot?_captures others, Scope.snapshot?_capture_eq_some_iff]
  simp [EntityKey.foundUnder, Value.foundUnder_iff_equal]

namespace Example

/-- A key with a number in it is found again after another key was captured, also where the number
stands in a list in a tuple. -/
theorem equality_contract_ratio :
    (((Scope.fresh.capture ⟨⟨"Rate", .record [.list [.float ⟨0x3FF8000000000000⟩]]⟩, []⟩).capture
        ⟨⟨"Rate", .null⟩, []⟩).snapshot?
          ⟨"Rate", .record [.list [.float ⟨0x3FF8000000000000⟩]]⟩) =
      some ⟨⟨"Rate", .record [.list [.float ⟨0x3FF8000000000000⟩]]⟩, []⟩ :=
  (equality_contract _ _ .null .fresh "Rate" [] [⟨⟨"Rate", .null⟩, []⟩]
    (by simp)).2.2.2.2.mpr (by decide)

/-- A NaN, the quiet one that arithmetic answers. -/
def notANumber : Value := .float ⟨0x7FF8000000000000⟩

/-- The zero with a sign. -/
def negativeZero : Value := .float ⟨0x8000000000000000⟩

/-- A NaN hashes like itself but does not equal itself, so what was captured under it is lost. -/
example : notANumber.equal notANumber = false ∧
    (Scope.fresh.capture ⟨⟨"Rate", notANumber⟩, []⟩).snapshot? ⟨"Rate", notANumber⟩ = none := by
  decide

/-- The two zeros are equal but hash apart. -/
example : negativeZero.equal (.float .zero) = true ∧
    negativeZero.hashFeed ≠ (Value.float .zero).hashFeed := by
  decide

end Example

end TrackedQuery
