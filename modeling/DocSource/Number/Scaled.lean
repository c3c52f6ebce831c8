import DocSource.Number.Literal

/-!
The double of a literal by its leading digits: as many as a word of sixty-four bits holds, scaled
by a power of ten in the arithmetic of doubles. It may differ from the nearest double in the last
places, as the digits, the power and their product are each rounded.
-/

namespace DocSource

namespace Double

/-- The magnitude nearest to a fraction scaled by a power of two. -/
def scaledMagnitude (num den : Nat) (scale : Int) : Nat :=
  if scale ≥ 0 then nearestMagnitude (num * Nat.pow 2 scale.toNat) den
  else nearestMagnitude num (den * Nat.pow 2 (-scale).toNat)

/-- The product of two finite doubles, rounded to the nearest. -/
def product (x y : Double) : Double :=
  ofMagnitude (x.negative != y.negative)
    (scaledMagnitude (x.significand * y.significand) 1 (x.scale + y.scale))

/-- The quotient of two finite doubles, rounded to the nearest; the divisor is not zero. -/
def quotient (x y : Double) : Double :=
  ofMagnitude (x.negative != y.negative)
    (scaledMagnitude x.significand y.significand (x.scale - y.scale))

/-- The double nearest to a power of ten. -/
def tenPower (exponent : Nat) : Double := ofDecimal false 1 exponent

/-- The greatest power of ten that a finite double is near to. -/
def greatestTenPower : Nat := 308

/-- A double scaled down by a power of ten, in two steps where one power is too great. -/
def scaleDown (x : Double) (power : Nat) : Double :=
  if power ≤ greatestTenPower then x.quotient (tenPower power)
  else if power ≤ 2 * greatestTenPower then
    (x.quotient (tenPower greatestTenPower)).quotient (tenPower (power - greatestTenPower))
  else ofMagnitude x.negative 0

/-- A double scaled up by a power of ten, unless the outcome is infinite. -/
def scaleUp? (x : Double) (power : Nat) : Option Double :=
  if x.isZero then some x
  else if greatestTenPower < power then none
  else
    let scaled := x.product (tenPower power)
    if scaled.isFinite then some scaled else none

end Double

namespace Literal

/-- The number of the leading digits that a word holds behind a value, and the digits left out. -/
def takeLeading (value : Nat) : List Char → Nat × List Char
  | [] => (value, [])
  | digit :: rest =>
    let next := 10 * value + digitsValue [digit]
    if next < Nat.pow 2 64 then takeLeading next rest else (value, digit :: rest)

/-- The double of a literal's leading digits, unless it is beyond the finite ones. -/
def scaledDouble? (literal : Literal) : Option Double :=
  -- Whole digits left out still count as places, and fraction digits taken as places less.
  let fraction := literal.fraction.getD []
  let (value, wholeLeft) := takeLeading 0 literal.whole
  let (value, fractionLeft) := takeLeading value fraction
  let taken : Int := (fraction.length : Int) - fractionLeft.length
  let exponent := literal.exponent.getD 0 + wholeLeft.length - taken
  let leading := Double.ofMagnitude literal.negative (Double.ofInt value).magnitude
  if exponent ≥ 0 then leading.scaleUp? exponent.toNat
  else some (leading.scaleDown (-exponent).toNat)

end Literal

end DocSource
