import DocSource.Number.Digits
import DocSource.Text.Occurrence

/-! Decimal floating-point numbers of thirty-four digits, read and written without rounding. -/

namespace DocSource

/-- A decimal number of the 128-bit format; the sign of what is not a number is not kept. -/
inductive Decimal128
  | finite (negative : Bool) (coefficient : Nat) (exponent : Int)
  | infinity (negative : Bool)
  | nan
  deriving DecidableEq, Inhabited

namespace Decimal128

/-- The most digits a coefficient holds. -/
def precision : Nat := 34

/-- The least power of ten that scales a coefficient. -/
def leastExponent : Int := -6176

/-- The greatest power of ten that scales a coefficient. -/
def greatestExponent : Int := 6111

/-- A coefficient cut to fewer digits, if only zeros are cut off. -/
def cut (digits : List Char) (keep : Nat) : Option (List Char) :=
  if (digits.drop keep).all (· == '0') then some (digits.take keep) else none

/-- A coefficient brought to at most the digits the format holds. -/
def fitPrecision (digits : List Char) (exponent : Int) : Option (List Char × Int) :=
  if digits.length ≤ precision then some (digits, exponent)
  else (cut digits precision).map fun kept => (kept, exponent + (digits.length - precision : Nat))

/-- An exponent raised to the least one, by cutting zeros off the coefficient. -/
def fitLeast (digits : List Char) (exponent : Int) : Option (List Char × Int) :=
  if leastExponent ≤ exponent then some (digits, exponent)
  else if digits = ['0'] then some (digits, leastExponent)
  else
    -- As many zeros must go as the exponent lies below the limit.
    let excess := (leastExponent - exponent).toNat
    if digits.length < excess then none
    else (cut digits (digits.length - excess)).map fun kept => (kept, leastExponent)

/-- An exponent lowered to the greatest one, by adding zeros to the coefficient. -/
def fitGreatest (digits : List Char) (exponent : Int) : Option (List Char × Int) :=
  if exponent ≤ greatestExponent then some (digits, exponent)
  else if digits = ['0'] then some (digits, greatestExponent)
  else
    let excess := (exponent - greatestExponent).toNat
    if precision < digits.length + excess then none
    else some (digits ++ List.replicate excess '0', greatestExponent)

/-- The number that a coefficient's digits write, behind at most one plus sign. -/
def coefficient? : List Char → Option Nat
  | '+' :: digits => readNat? digits
  | digits => readNat? digits

/-- A power of ten that fits a word of a hundred and twenty-eight bits. -/
def isExponent (n : Int) : Bool := -(Nat.pow 2 127 : Int) ≤ n && n < (Nat.pow 2 127 : Int)

/-- A power of ten as a text names it, with at most one sign. -/
def exponent? (text : List Char) : Option Int :=
  (readInt? text).bind fun n => if isExponent n then some n else none

/-- The finite number of a text in lower case, if the format holds it exactly. -/
def readFinite? (negative : Bool) (text : List Char) : Option Decimal128 := do
  let (body, power) := (Text.divideFirst 'e' text).getD (text, ['0'])
  let power ← exponent? power
  -- A point moves the exponent by the digits behind it.
  let (whole, fraction) := (Text.divideFirst '.' body).getD (body, [])
  let exponent := power - fraction.length
  if !isExponent exponent then none
  let stripped := (whole ++ fraction).dropWhile (· == '0')
  let digits := if stripped = [] then ['0'] else stripped
  let (digits, exponent) ← fitPrecision digits exponent
  let (digits, exponent) ← fitLeast digits exponent
  let (digits, exponent) ← fitGreatest digits exponent
  let coefficient ← coefficient? digits
  some (finite negative coefficient exponent)

/-- The number of a text, if the format holds it exactly. -/
def read? (text : List Char) : Option Decimal128 :=
  -- Words for infinity and no number come in any case.
  let (negative, body) := match text with
    | '-' :: rest => (true, rest)
    | '+' :: rest => (false, rest)
    | text => (false, text)
  let word := body.map Char.toLower
  if word = "nan".toList || word = "snan".toList then some nan
  else if word = "infinity".toList || word = "inf".toList then some (infinity negative)
  else readFinite? negative word

/-- The digits of a coefficient with its power of ten, out of place or with a power. -/
def finiteText (coefficient : Nat) (exponent : Int) : List Char :=
  let digits := natText coefficient
  let place := exponent + digits.length - 1
  if exponent ≤ 0 && -6 ≤ place then
    -- Written out: the exponent counts the digits behind the point.
    let behind := exponent.natAbs
    if behind = 0 then digits
    else if digits.length ≤ behind then
      "0.".toList ++ List.replicate (behind - digits.length) '0' ++ digits
    else digits.take (digits.length - behind) ++ '.' :: digits.drop (digits.length - behind)
  else
    let mantissa := match digits with
      | first :: second :: more => first :: '.' :: second :: more
      | few => few
    mantissa ++ 'E' :: (if 0 < place then '+' :: intText place else intText place)

/-- The standard text of a decimal number. -/
def text : Decimal128 → List Char
  | nan => "NaN".toList
  | infinity negative => (if negative then ['-'] else []) ++ "Infinity".toList
  | finite negative coefficient exponent =>
    (if negative then ['-'] else []) ++ finiteText coefficient exponent

end Decimal128

end DocSource
