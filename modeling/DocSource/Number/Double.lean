import DocSource.Number.Digits

/-!
Doubles by their IEEE 754 bits, and the double nearest to a rational number.

Powers are those of `Nat.pow` itself, so that no choice of instances changes what they mean.
-/

namespace DocSource

/-- A double, held as its sixty-four bits. -/
structure Double where
  bits : UInt64
  deriving DecidableEq, Inhabited

namespace Double

/-- The bits below the sign: the exponent field over fifty-two bits of fraction. -/
def magnitude (x : Double) : Nat := x.bits.toNat % Nat.pow 2 63

/-- The sign bit is set. -/
def negative (x : Double) : Bool := Nat.pow 2 63 ≤ x.bits.toNat

/-- The eleven bits of the exponent field. -/
def exponentField (x : Double) : Nat := x.magnitude / Nat.pow 2 52

/-- The fifty-two bits of the fraction. -/
def fraction (x : Double) : Nat := x.magnitude % Nat.pow 2 52

/-- The magnitude of an infinity; every greater one is not a number. -/
def infiniteMagnitude : Nat := 2047 * Nat.pow 2 52

/-- A double that stands for a number. -/
def isFinite (x : Double) : Bool := x.magnitude < infiniteMagnitude

/-- A double that stands for no number and no infinity. -/
def isNaN (x : Double) : Bool := infiniteMagnitude < x.magnitude

/-- Zero with either sign. -/
def isZero (x : Double) : Bool := x.magnitude == 0

/-- A finite double with a full significand. -/
def isNormal (x : Double) : Bool := x.isFinite && x.exponentField != 0

/-- The whole number that, scaled by a power of two, is a finite double's absolute value. -/
def significand (x : Double) : Nat :=
  if x.exponentField = 0 then x.fraction else Nat.pow 2 52 + x.fraction

/-- The power of two that scales the significand. -/
def scale (x : Double) : Int :=
  if x.exponentField = 0 then -1074 else (x.exponentField : Int) - 1075

/-- The double with a sign and a magnitude. -/
def ofMagnitude (negative : Bool) (magnitude : Nat) : Double :=
  ⟨UInt64.ofNat (if negative then Nat.pow 2 63 + magnitude else magnitude)⟩

/-- Infinity with a sign. -/
def infinity (negative : Bool) : Double := ofMagnitude negative infiniteMagnitude

/-- The quiet value that is not a number, with a sign. -/
def nan (negative : Bool) : Double := ofMagnitude negative (infiniteMagnitude + Nat.pow 2 51)

/-- The whole number nearest to a fraction, the even one of two equally near. -/
def roundToEven (num den : Nat) : Nat :=
  -- The remainder tells on which side of the half the fraction lies.
  let quotient := num / den
  let twice := 2 * (num % den)
  if den < twice || (twice == den && quotient % 2 == 1) then quotient + 1 else quotient

/-- The magnitude of the double nearest to a fraction, ties to even, and at most infinity. -/
def nearestMagnitude (num den : Nat) : Nat :=
  if num = 0 then 0
  else
    -- The binary exponent of the fraction, from the sizes of its two parts.
    let guess : Int := (num.log2 : Int) - den.log2
    let reached := if guess ≥ 0 then den * Nat.pow 2 guess.toNat ≤ num
      else den ≤ num * Nat.pow 2 (-guess).toNat
    let exponent := if reached then guess else guess - 1
    -- A significand of fifty-three bits, or fewer where the exponent has no room below.
    let scale := max (exponent - 52) (-1074)
    let rounded := if scale ≥ 0 then roundToEven num (den * Nat.pow 2 scale.toNat)
      else roundToEven (num * Nat.pow 2 (-scale).toNat) den
    -- A carry out of the significand moves on to the next exponent by itself.
    min ((scale + 1074).toNat * Nat.pow 2 52 + rounded) infiniteMagnitude

/-- The double nearest to `coefficient * 10 ^ exponent`, infinite beyond the finite ones. -/
def ofDecimal (negative : Bool) (coefficient : Nat) (exponent : Int) : Double :=
  -- Texts may name exponents far outside the range, whose powers are never computed.
  let top := exponent + (natText coefficient).length
  if coefficient = 0 || top < -330 then ofMagnitude negative 0
  else if 310 < top then infinity negative
  else if exponent ≥ 0 then
    ofMagnitude negative (nearestMagnitude (coefficient * Nat.pow 10 exponent.toNat) 1)
  else ofMagnitude negative (nearestMagnitude coefficient (Nat.pow 10 (-exponent).toNat))

/-- The double nearest to an integer. -/
def ofInt (n : Int) : Double := ofMagnitude (n < 0) (nearestMagnitude n.natAbs 1)

end Double

end DocSource
