/-!
Decimal numbers, the binary64 numbers nearest to them, and the shortest decimals
that read back as those.

A finite magnitude is `significand * 2 ^ exponent` with a significand of at most
53 bits and an exponent of at least -1074.  All comparisons are made between
natural numbers, so nothing here depends on machine arithmetic.
-/

namespace RuleDigest

/-- A power of ten. -/
def tenTo (exponent : Nat) : Nat :=
  Nat.pow 10 exponent

/-- A power of two. -/
def twoTo (exponent : Nat) : Nat :=
  Nat.pow 2 exponent

/-- The number `digits * 10 ^ exponent`. -/
structure Decimal where
  digits : Nat
  exponent : Int
  deriving DecidableEq, Repr

/-- The number `significand * 2 ^ exponent`. -/
structure Binary64 where
  significand : Nat
  exponent : Int
  deriving DecidableEq, Repr

namespace Binary64

/-- The least exponent, that of the subnormal numbers. -/
def leastExponent : Int := -1074

/-- The number zero. -/
def zero : Binary64 := ⟨0, leastExponent⟩

/-- The quotient rounded to a natural number, halves to the even neighbour. -/
def roundQuotient (dividend divisor : Nat) : Nat :=
  let quotient := dividend / divisor
  let twice := 2 * (dividend % divisor)
  if divisor < twice ∨ (twice = divisor ∧ quotient % 2 = 1) then quotient + 1 else quotient

/-- The binary64 number nearest to a positive quotient.  The exponent is the
least under which the rounded significand fits, and never below the least. -/
def ofQuotient (dividend divisor : Nat) : Binary64 :=
  let estimate : Int := (dividend.log2 : Int) - divisor.log2 - 53
  let scaled (exponent : Int) : Nat :=
    roundQuotient (dividend * twoTo (-exponent).toNat) (divisor * twoTo exponent.toNat)
  let first := max estimate leastExponent
  if scaled first < twoTo 53 then ⟨scaled first, first⟩
  else if scaled (first + 1) < twoTo 53 then ⟨scaled (first + 1), first + 1⟩
  else ⟨scaled (first + 2), first + 2⟩

/-- The number of decimal digits of a positive number. -/
def width (number : Nat) : Nat :=
  (Nat.toDigits 10 number).length

/-- The binary64 number nearest to a decimal, or nothing where it lies beyond
the range.  Decimals far outside the range are settled by their width alone. -/
def ofDecimal? (decimal : Decimal) : Option Binary64 :=
  if decimal.digits = 0 then some zero
  else if 400 < decimal.exponent + width decimal.digits then none
  else if decimal.exponent + width decimal.digits < -400 then some zero
  else
    let number :=
      ofQuotient (decimal.digits * tenTo decimal.exponent.toNat) (tenTo (-decimal.exponent).toNat)
    if twoTo 1024 ≤ number.significand * twoTo number.exponent.toNat then none else some number

/-- A magnitude with the ends of the interval of reals that round to it, all
three over one divisor. -/
structure Interval where
  low : Nat
  middle : Nat
  high : Nat
  divisor : Nat
  /-- The ends belong to the interval. -/
  closed : Bool
  deriving Repr

/-- The reals that round to a number.  Below a power of two the grid is twice as
fine, so there the interval reaches down only half as far. -/
def interval (number : Binary64) : Interval :=
  let scale := twoTo (number.exponent - 2).toNat
  let reach := if number.significand = twoTo 52 ∧ leastExponent < number.exponent then 1 else 2
  { low := (4 * number.significand - reach) * scale
    middle := 4 * number.significand * scale
    high := (4 * number.significand + 2) * scale
    divisor := twoTo (2 - number.exponent).toNat
    closed := number.significand % 2 == 0 }

namespace Interval

/-- A multiple of a power of ten lies in the interval. -/
def contains (interval : Interval) (digits : Nat) (exponent : Int) : Bool :=
  let point := digits * tenTo exponent.toNat * interval.divisor
  let scale := tenTo (-exponent).toNat
  if interval.closed then interval.low * scale ≤ point && point ≤ interval.high * scale
  else interval.low * scale < point && point < interval.high * scale

/-- The multiple of a power of ten that lies in the interval, the one nearest to
its middle if there are several, the greater of two that are equally near. -/
def multiple? (interval : Interval) (exponent : Int) : Option Nat :=
  let unit := tenTo exponent.toNat * interval.divisor
  let middle := interval.middle * tenTo (-exponent).toNat
  let below := middle / unit
  let above := below + 1
  match interval.contains below exponent, interval.contains above exponent with
  | false, false => none
  | true, false => some below
  | false, true => some above
  | true, true => if middle - below * unit < above * unit - middle then some below else some above

/-- The coarsest decimal in the interval, among the exponents below a bound. -/
def coarsest? (interval : Interval) : (count : Nat) → (top : Int) → Option Decimal
  | 0, _ => none
  | count + 1, top =>
      match interval.multiple? top with
      | some digits => some ⟨digits, top⟩
      | none => coarsest? interval count (top - 1)

end Interval

/-- The decimal with the fewest digits that rounds to a number. -/
def shortest (number : Binary64) : Decimal :=
  if number.significand = 0 then ⟨0, 0⟩
  else (number.interval.coarsest? 700 310).getD ⟨0, 0⟩

end Binary64

namespace Decimal

/-- A decimal in positional notation, with at least one digit on either side of
the point. -/
def positional (decimal : Decimal) : List Char :=
  let digits := Nat.toDigits 10 decimal.digits
  let places := (-decimal.exponent).toNat
  if places = 0 then
    (if decimal.digits = 0 then digits else digits ++ List.replicate decimal.exponent.toNat '0') ++
      ".0".toList
  else
    let padded := List.replicate (places + 1 - digits.length) '0' ++ digits
    padded.take (padded.length - places) ++ '.' :: padded.drop (padded.length - places)

end Decimal

end RuleDigest
