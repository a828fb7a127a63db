import TrackedQuery.Binary64

/-!
# The fewest decimal digits that read back

A binary number is printed with as few significant digits as identify it among all binary numbers,
and of the decimals with that many digits the nearest one is taken.  Everything is exact arithmetic
on natural numbers.

## Strategy

1. `Span.of` writes a positive finite number, and the two ends of the interval of reals that round
   to it, over one denominator.  The ends themselves round to it exactly when its significand is
   even.
2. For one digit, then two, and so on, `Span.onGrid?` tests the two neighbours of the number on that
   decimal grid.  A point of the grid lies in the interval only if one of the two neighbours does,
   so the first grid with a hit has the fewest digits.
-/

namespace TrackedQuery.Binary64

/-- The whole number that the exponent scales: the fraction, with its leading one unless the number
is subnormal. -/
def significand (number : Binary64) : Nat :=
  if number.exponentField = 0 then number.fractionField
  else powerOfTwo fractionBits + number.fractionField

/-- The power of two that scales the significand. -/
def scale (number : Binary64) : Int := max number.exponentField 1 - 1075

/-- A positive number and its rounding interval over one denominator. -/
structure Span where
  low : Nat
  value : Nat
  high : Nat
  denominator : Nat
  /-- Whether the ends belong to the interval. -/
  closed : Bool

/-- The span of a positive finite number.  The gap below a power of two is half the gap above it,
except at the bottom of the range, where the spacing stays the same. -/
def Span.of (number : Binary64) : Span :=
  let significand := number.significand
  let below := if number.fractionField = 0 && number.exponentField > 1 then 1 else 2
  let up := powerOfTwo number.scale.toNat
  { low := (4 * significand - below) * up
    value := 4 * significand * up
    high := (4 * significand + 2) * up
    denominator := 4 * powerOfTwo (-number.scale).toNat
    closed := significand % 2 == 0 }

/-- The number of decimal digits, none for zero. -/
def digitCount (number : Nat) : Nat := if number = 0 then 0 else (Nat.toDigits 10 number).length

/-- The power of ten of the leading digit. -/
def Span.leading (span : Span) : Int :=
  if span.denominator ≤ span.value then digitCount (span.value / span.denominator) - 1
  else -(digitCount ((span.denominator - 1) / span.value) : Int)

/-- Ten to a power. -/
def powerOfTen (exponent : Nat) : Nat := Nat.pow 10 exponent

/-- A decimal number `digits * 10 ^ exponent`. -/
structure Decimal where
  digits : Nat
  exponent : Int

/-- The decimal next to the number on the grid of multiples of `10 ^ exponent`, if a neighbour there
reads back.  Of two such neighbours the nearer is taken, and the upper one when both are as near. -/
def Span.onGrid? (span : Span) (exponent : Int) : Option Decimal :=
  let up := powerOfTen (-exponent).toNat
  let unit := span.denominator * powerOfTen exponent.toNat
  let floor := span.value * up / unit
  let rest := span.value * up - floor * unit
  let above := (floor + 1) * unit
  let lowHit := if span.closed then span.low * up ≤ floor * unit else span.low * up < floor * unit
  let highHit := if span.closed then above ≤ span.high * up else above < span.high * up
  if highHit && (!lowHit || unit ≤ 2 * rest) then some ⟨floor + 1, exponent⟩
  else if lowHit then some ⟨floor, exponent⟩
  else none

/-- Seventeen digits always identify a number, so a longer grid is never needed. -/
def maxDigits : Nat := 17

/-- The decimal with the fewest digits that reads back as a positive finite number. -/
def shortest (number : Binary64) : Decimal :=
  let span := Span.of number
  let leading := span.leading
  let candidates := (List.range maxDigits).filterMap fun (count : Nat) =>
    span.onGrid? (leading - count)
  candidates.headD ⟨0, 0⟩

/-! ## Layout -/

/-- The digits of a decimal without trailing zeros, and the power of ten of the first one. -/
def Decimal.scientific (decimal : Decimal) : List Char × Int :=
  let digits := Nat.toDigits 10 decimal.digits
  let kept := (digits.reverse.dropWhile (· == '0')).reverse
  (kept, decimal.exponent + digits.length - 1)

/-- Digits around a decimal point, at least one on either side. -/
def positional (digits : List Char) (leading : Int) : List Char :=
  if leading < 0 then
    '0' :: '.' :: List.replicate (-leading - 1).toNat '0' ++ digits
  else
    let whole := leading.toNat + 1
    let padded := digits ++ List.replicate (whole - digits.length) '0'
    let fraction := padded.drop whole
    padded.take whole ++ '.' :: (if fraction.isEmpty then ['0'] else fraction)

/-- One digit, the others after a point, and the power of ten after `e`. -/
def exponential (digits : List Char) (leading : Int) : List Char :=
  let rest := digits.drop 1
  digits.take 1 ++ (if rest.isEmpty then [] else '.' :: rest) ++ 'e' :: (toString leading).toList

/-- Numbers from `10 ^ -4` up to but not including `10 ^ 16` are written with a decimal point, all
others with an exponent. -/
def layout (digits : List Char) (leading : Int) : List Char :=
  if -4 ≤ leading && leading < 16 then positional digits leading else exponential digits leading

/-- The text of a number that is not a NaN, without its sign. -/
def magnitudeText (number : Binary64) : String :=
  if number.isZero then "0.0"
  else if number.exponentField == topExponent then "inf"
  else
    let (digits, leading) := number.shortest.scientific
    String.ofList (layout digits leading)

/-- The text of a number.  A NaN has no sign. -/
def text (number : Binary64) : String :=
  if number.isNaN then "NaN"
  else if number.isNegative then "-" ++ number.magnitudeText
  else number.magnitudeText

end TrackedQuery.Binary64
