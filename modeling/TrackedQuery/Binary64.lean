/-!
# Binary floating-point numbers as stored bits

The library stores, compares and prints floating-point numbers and converts integers to them; it
never adds or multiplies two.  A number is therefore its 64-bit pattern: one sign bit, eleven bits
of exponent, fifty-two of fraction.  Two notions of sameness follow.  Equality of the structure is
equality of bits.  `numericEq` is the comparison of numbers, under which a NaN differs from itself
and the two zeros agree.
-/

namespace TrackedQuery

/-- A double-precision number, by its bit pattern. -/
structure Binary64 where
  /-- Sign, biased exponent and fraction, from the highest bit down. -/
  bits : UInt64
deriving DecidableEq, Inhabited

namespace Binary64

/-- Two to a power. -/
def powerOfTwo (exponent : Nat) : Nat := Nat.pow 2 exponent

/-- Width of the fraction field. -/
def fractionBits : Nat := 52

/-- Width of the exponent field. -/
def exponentBits : Nat := 11

/-- The largest value of the exponent field, kept for the infinities and the NaNs. -/
def topExponent : Nat := 0x7FF

/-- Whether the sign bit is set. -/
def isNegative (number : Binary64) : Bool :=
  number.bits.toNat / powerOfTwo (exponentBits + fractionBits) == 1

/-- The exponent field, as stored. -/
def exponentField (number : Binary64) : Nat :=
  number.bits.toNat / powerOfTwo fractionBits % powerOfTwo exponentBits

/-- The fraction field. -/
def fractionField (number : Binary64) : Nat := number.bits.toNat % powerOfTwo fractionBits

/-- Whether the pattern stands for no number at all. -/
def isNaN (number : Binary64) : Bool :=
  number.exponentField == topExponent && number.fractionField != 0

/-- Whether the pattern is one of the two zeros. -/
def isZero (number : Binary64) : Bool :=
  number.exponentField == 0 && number.fractionField == 0

/-- Positive zero. -/
def zero : Binary64 := ⟨0⟩

/-- Equality of numbers: no NaN equals anything, the two zeros are equal, and other numbers are
equal when their bits are. -/
def numericEq (left right : Binary64) : Bool :=
  !left.isNaN && !right.isNaN && (left.bits == right.bits || left.isZero && right.isZero)

/-! ## Conversion from integers -/

/-- The pattern with the given fields. -/
def ofFields (negative : Bool) (exponent fraction : Nat) : Binary64 :=
  let sign := if negative then powerOfTwo (exponentBits + fractionBits) else 0
  ⟨UInt64.ofNat (sign + exponent * powerOfTwo fractionBits + fraction)⟩

/-- `num / den`, rounded to the nearest natural number, a tie to the even neighbour. -/
def divRoundEven (num den : Nat) : Nat :=
  let quotient := num / den
  let twice := 2 * (num % den)
  if twice < den || twice == den && quotient % 2 == 0 then quotient else quotient + 1

/-- The number nearest to `magnitude`, a tie to the even neighbour.  A significand that rounds up to
the next power of two carries into the exponent field by itself, because the two fields are
adjacent. -/
def ofNat (magnitude : Nat) (negative : Bool) : Binary64 :=
  if magnitude = 0 then zero
  else
    let exponent := magnitude.log2
    let significand :=
      if exponent ≤ fractionBits then magnitude * powerOfTwo (fractionBits - exponent)
      else divRoundEven magnitude (powerOfTwo (exponent - fractionBits))
    ofFields negative (exponent + 1022) significand

/-- The number nearest to an integer, a tie to the even neighbour.  The integers converted are of
machine width, far below the largest finite number. -/
def ofInt (integer : Int) : Binary64 := ofNat integer.natAbs (integer < 0)

end Binary64

end TrackedQuery
