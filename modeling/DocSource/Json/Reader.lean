import DocSource.Json.Written
import DocSource.Number.Scaled
import DocSource.Text.Hex

/-! Reading JSON texts: the strict grammar first, then the values within its limits. -/

namespace DocSource.Json

/-- The four blanks that may stand between the parts of a JSON text. -/
def isSpace (c : Char) : Bool := c == ' ' || c == '\t' || c == '\n' || c == '\r'

/-- A text without the blanks in front. -/
def skipSpace (text : List Char) : List Char := text.dropWhile isSpace

/-- A part of a string: a character, or a sixteen-bit unit written as an escape. -/
inductive Piece
  | char (c : Char)
  | unit (value : Nat)
  deriving DecidableEq

/-- The unit that four hexadecimal digits write. -/
def hexUnit? (a b c d : Char) : Option Nat := do
  let a ← Hex.digit? a
  let b ← Hex.digit? b
  let c ← Hex.digit? c
  let d ← Hex.digit? d
  some (((a * 16 + b) * 16 + c) * 16 + d)

/-- The character that a one-letter escape writes. -/
def escaped? : Char → Option Char
  | '"' => some '"'
  | '\\' => some '\\'
  | '/' => some '/'
  | 'b' => some '\x08'
  | 'f' => some '\x0c'
  | 'n' => some '\n'
  | 'r' => some '\r'
  | 't' => some '\t'
  | _ => none

/-- The parts of a string up to its closing quote, and what follows the quote. -/
def takePieces : List Char → Option (List Piece × List Char)
  | '"' :: rest => some ([], rest)
  | '\\' :: 'u' :: a :: b :: c :: d :: rest => do
    let unit ← hexUnit? a b c d
    let (pieces, rest) ← takePieces rest
    some (.unit unit :: pieces, rest)
  | '\\' :: letter :: rest => do
    let c ← escaped? letter
    let (pieces, rest) ← takePieces rest
    some (.char c :: pieces, rest)
  | c :: rest =>
    -- Control characters must be escaped.
    if c.toNat < 0x20 || c == '\\' then none
    else do
      let (pieces, rest) ← takePieces rest
      some (.char c :: pieces, rest)
  | [] => none

/-- The text of a string's parts; surrogate units must come in pairs. -/
def joinPieces : List Piece → Option (List Char)
  | [] => some []
  | .char c :: rest => (joinPieces rest).map (c :: ·)
  | .unit high :: .unit low :: rest =>
    -- A high surrogate needs a low one behind it, and the two write one character.
    if 0xD800 ≤ high && high ≤ 0xDBFF then
      if 0xDC00 ≤ low && low ≤ 0xDFFF then
        let code := 0x10000 + (high - 0xD800) * 0x400 + (low - 0xDC00)
        (joinPieces rest).map (Char.ofNat code :: ·)
      else none
    else if 0xDC00 ≤ high && high ≤ 0xDFFF then none
    -- Any other unit is a character by itself, and the unit behind it is looked at anew.
    else (joinPieces (.unit low :: rest)).map (Char.ofNat high :: ·)
  | .unit code :: rest =>
    if 0xD800 ≤ code && code ≤ 0xDFFF then none
    else (joinPieces rest).map (Char.ofNat code :: ·)

/-- The string up to its closing quote, and what follows the quote. -/
def takeString (text : List Char) : Option (Option String × List Char) :=
  (takePieces text).map fun (pieces, rest) => ((joinPieces pieces).map String.ofList, rest)

/-- A minus sign in front of a text, and what follows it. -/
def takeMinus : List Char → Bool × List Char
  | '-' :: rest => (true, rest)
  | text => (false, text)

/-- The digits behind a point at the front of a text, if a point stands there. -/
def takeFraction : List Char → Option (Option (List Char) × List Char)
  | '.' :: rest =>
    let (digits, rest) := Literal.takeDigits rest
    if digits = [] then none else some (some digits, rest)
  | rest => some (none, rest)

/-- The number literal at the front of a text, and what follows it. -/
def takeLiteral (text : List Char) : Option (Literal × List Char) := do
  let (negative, body) := takeMinus text
  let (whole, rest) := Literal.takeDigits body
  -- A whole part has a digit, and a zero only in front of nothing else.
  if whole = [] || (whole.head? = some '0' && whole ≠ ['0']) then none
  let (fraction, rest) ← takeFraction rest
  let (exponent, rest) ← Literal.takeExponent rest
  some (⟨negative, whole, fraction, exponent⟩, rest)

/-- The number of a literal: whole where it is written so and fits, else the scaled double. -/
def number? (literal : Literal) : Option Number :=
  -- A negative zero is a double, as no whole number keeps its sign.
  let magnitude := digitsValue literal.whole
  let value : Int := if literal.negative then -(magnitude : Int) else magnitude
  let whole := literal.fraction = none && literal.exponent = none &&
    !(literal.negative && magnitude = 0)
  if whole && -9223372036854775808 ≤ value && value ≤ 18446744073709551615 then some (.int value)
  else literal.scaledDouble?.map .double

mutual

/-- The value at the front of a text, and what follows it. -/
def takeValue : Nat → List Char → Option (Written × List Char)
  | 0, _ => none
  -- Fuel counts down through values, items and members alike.
  | fuel + 1, text =>
    match skipSpace text with
    | 'n' :: 'u' :: 'l' :: 'l' :: rest => some (.null, rest)
    | 't' :: 'r' :: 'u' :: 'e' :: rest => some (.bool true, rest)
    | 'f' :: 'a' :: 'l' :: 's' :: 'e' :: rest => some (.bool false, rest)
    | '"' :: rest => do
      let (text, rest) ← takeString rest
      some (.string text, rest)
    | '[' :: rest =>
      match skipSpace rest with
      | ']' :: rest => some (.array [], rest)
      | rest => do
        let (items, rest) ← takeItems fuel rest
        some (.array items, rest)
    | '{' :: rest =>
      match skipSpace rest with
      | '}' :: rest => some (.object [], rest)
      | rest => do
        let (members, rest) ← takeMembers fuel rest
        some (.object members, rest)
    | text => do
      -- What begins in no other way must be a number, which is judged when it is read.
      let (literal, rest) ← takeLiteral text
      some (.number (number? literal), rest)

/-- The items up to the closing bracket of an array that has one. -/
def takeItems : Nat → List Char → Option (List Written × List Char)
  | 0, _ => none
  | fuel + 1, text => do
    let (item, rest) ← takeValue fuel text
    match skipSpace rest with
    | ']' :: rest => some ([item], rest)
    | ',' :: rest => do
      -- Behind a comma there must be another item.
      let (items, rest) ← takeItems fuel rest
      some (item :: items, rest)
    | _ => none

/-- The members up to the closing brace of an object that has one. -/
def takeMembers : Nat → List Char → Option (List (Option String × Written) × List Char)
  | 0, _ => none
  | fuel + 1, text =>
    match skipSpace text with
    | '"' :: rest => do
      let (key, rest) ← takeString rest
      match skipSpace rest with
      | ':' :: rest => do
        let (value, rest) ← takeValue fuel rest
        match skipSpace rest with
        | '}' :: rest => some ([(key, value)], rest)
        -- Behind a comma there must be another member.
        | ',' :: rest => do
          let (members, rest) ← takeMembers fuel rest
          some ((key, value) :: members, rest)
        | _ => none
      | _ => none
    | _ => none

end

/-- The structure of a text that is one JSON value and nothing else. -/
def written? (text : List Char) : Option Written :=
  -- Each step of the grammar takes a character, so twice the length is fuel enough.
  match takeValue (2 * text.length + 2) text with
  | some (written, rest) => if skipSpace rest = [] then some written else none
  | none => none

/-- The deepest nesting of arrays and objects that is read. -/
def depthLimit : Nat := 127

/-- The value of a JSON text. -/
def read? (text : List Char) : Option Json := do
  let written ← written? text
  if written.depth ≤ depthLimit then written.value? else none

end DocSource.Json
