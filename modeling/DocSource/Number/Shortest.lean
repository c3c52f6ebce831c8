import DocSource.Number.Double

/-! The fewest decimal digits that read back as a double, and the ways they are laid out. -/

namespace DocSource

/-- Which of two equally near decimals is taken. -/
inductive Tie
  | toEven
  | away
  deriving DecidableEq

namespace Double

/-- A finite positive double with the ends of its rounding interval, over one denominator. -/
structure Interval where
  low : Nat
  middle : Nat
  high : Nat
  denominator : Nat
  closed : Bool

/-- The numbers that round to a finite double, ends included when its significand is even. -/
def interval (x : Double) : Interval :=
  -- Quarters of the last place; below a power of two the gap is half as wide.
  let lower := if x.fraction = 0 && 1 < x.exponentField then 1 else 2
  let quarters := 4 * x.significand
  let shift := x.scale - 2
  let factor := Nat.pow 2 shift.toNat
  ⟨(quarters - lower) * factor, quarters * factor, (quarters + 2) * factor,
    Nat.pow 2 (-shift).toNat, x.significand % 2 == 0⟩

/-- The multiple of `10 ^ exponent` nearest to the middle of an interval, if one lies inside. -/
def Interval.onGrid (tie : Tie) (i : Interval) (exponent : Int) : Option (Nat × Int) :=
  -- Both neighbours of the middle are tried, over one denominator.
  let up := Nat.pow 10 (-exponent).toNat
  let step := i.denominator * Nat.pow 10 exponent.toNat
  let below := i.middle * up / step
  let inside (n : Nat) : Bool :=
    if i.closed then i.low * up ≤ n * step && n * step ≤ i.high * up
    else i.low * up < n * step && n * step < i.high * up
  let twice := 2 * (i.middle * up)
  let halfway := (2 * below + 1) * step
  let nearer := if twice < halfway then below
    else if halfway < twice then below + 1
    else match tie with
      | .toEven => if below % 2 = 0 then below else below + 1
      | .away => below + 1
  if inside below && inside (below + 1) then some (nearer, exponent)
  else if inside below then some (below, exponent)
  else if inside (below + 1) then some (below + 1, exponent)
  else none

/-- A decimal exponent no greater than that of the middle's first digit. -/
def Interval.leading (i : Interval) : Int :=
  if i.denominator ≤ i.middle then (natText (i.middle / i.denominator)).length - 1
  else -(natText (i.denominator / i.middle)).length

/-- The fewest digits that read back as a finite positive double, and the place of the first. -/
def shortest (tie : Tie) (x : Double) : List Char × Int :=
  -- Grids of one digit, two digits and so on; seventeen always suffice.
  let i := x.interval
  let top := i.leading
  let (coefficient, exponent) :=
    ((List.range 18).findSome? fun (n : Nat) => i.onGrid tie (top - n)).getD (0, 0)
  let digits := natText coefficient
  let zeros := (digits.reverse.takeWhile (· == '0')).length
  (digits.take (digits.length - zeros), exponent + digits.length - 1)

/-- Digits written out by place, with a point and at least one digit on either side of it. -/
def positional (digits : List Char) (place : Int) : List Char :=
  if place < 0 then "0.".toList ++ List.replicate (-place - 1).toNat '0' ++ digits
  else
    let whole := (place + 1).toNat
    if digits.length ≤ whole then
      digits ++ List.replicate (whole - digits.length) '0' ++ ".0".toList
    else digits.take whole ++ '.' :: digits.drop whole

/-- Digits with a point behind the first and a signed power of ten. -/
def scientific (digits : List Char) (place : Int) : List Char :=
  let mantissa := match digits with
    | first :: second :: more => first :: '.' :: second :: more
    | few => few
  mantissa ++ 'e' :: (if place < 0 then '-' else '+') :: natText place.natAbs

/-- A way to write doubles: the places written out, and what an exact tie does. -/
structure Layout where
  writtenOut : Int → Bool
  tie : Tie

/-- Data formats write out the places from the fifth behind the point to the sixteenth before. -/
def Layout.data : Layout := ⟨fun place => -5 ≤ place && place < 16, .toEven⟩

/-- Plain text writes out every place, and a tie goes away from zero. -/
def Layout.plain : Layout := ⟨fun _ => true, .away⟩

/-- The text of a finite double. -/
def text (layout : Layout) (x : Double) : List Char :=
  let sign := if x.negative then ['-'] else []
  if x.isZero then sign ++ "0.0".toList
  else
    let (digits, place) := x.shortest layout.tie
    sign ++ if layout.writtenOut place then positional digits place else scientific digits place

end Double

end DocSource
