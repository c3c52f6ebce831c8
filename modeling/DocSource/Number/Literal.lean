import DocSource.Number.Double

/-! Decimal literals: digits with an optional point and power of ten, and the double they name. -/

namespace DocSource

/-- A decimal literal, in the parts it is written in. -/
structure Literal where
  negative : Bool
  whole : List Char
  fraction : Option (List Char)
  exponent : Option Int
  deriving DecidableEq

namespace Literal

/-- The double nearest to the number a literal names. -/
def double (literal : Literal) : Double :=
  let fraction := literal.fraction.getD []
  Double.ofDecimal literal.negative (digitsValue (literal.whole ++ fraction))
    (literal.exponent.getD 0 - fraction.length)

/-- The digits at the front of a text, and what follows them. -/
def takeDigits (text : List Char) : List Char × List Char :=
  (text.takeWhile Char.isDigit, text.dropWhile Char.isDigit)

/-- The power of ten at the front of a text, if a mark for one stands there. -/
def takeExponent (text : List Char) : Option (Option Int × List Char) :=
  -- A mark must be followed by digits, with at most one sign before them.
  let signed (negative : Bool) (text : List Char) : Option (Option Int × List Char) :=
    let (digits, rest) := takeDigits text
    if digits = [] then none
    else
      let value : Int := digitsValue digits
      some (some (if negative then -value else value), rest)
  match text with
  | c :: rest =>
    if c = 'e' || c = 'E' then
      match rest with
      | '-' :: rest => signed true rest
      | '+' :: rest => signed false rest
      | _ => signed false rest
    else some (none, text)
  | [] => some (none, [])

end Literal

/-- A sign in front of a text, and what follows it. -/
def takeSign : List Char → Bool × List Char
  | '-' :: rest => (true, rest)
  | '+' :: rest => (false, rest)
  | text => (false, text)

/-- The double that a text names: a word for infinity or no number, or a loose literal. -/
def readDouble? (text : List Char) : Option Double :=
  -- The point may stand first or last, as long as a digit stands beside it.
  let (negative, body) := takeSign text
  let word := body.map Char.toLower
  if word = "inf".toList || word = "infinity".toList then some (Double.infinity negative)
  else if word = "nan".toList then some (Double.nan negative)
  else
    let (whole, rest) := Literal.takeDigits body
    let (fraction, rest) := match rest with
      | '.' :: rest => let (digits, rest) := Literal.takeDigits rest; (some digits, rest)
      | rest => (none, rest)
    if whole = [] && fraction.getD [] = [] then none
    else match Literal.takeExponent rest with
      | some (exponent, []) => some (Literal.double ⟨negative, whole, fraction, exponent⟩)
      | _ => none

end DocSource
