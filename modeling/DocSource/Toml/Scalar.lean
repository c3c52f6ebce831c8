import DocSource.Number.Literal
import DocSource.Text.Hex
import DocSource.Time.Timestamp

/-! TOML scalars: the texts of strings, and which words are numbers, dates or truth values. -/

namespace DocSource.Toml

/-- A character that may stand for itself in strings and comments. -/
def isPlain (c : Char) : Bool := (0x20 ≤ c.toNat && c.toNat ≠ 0x7F) || c == '\t'

/-- The character with a code that hexadecimal digits write, surrogates excepted. -/
def codeChar? (digits : List Char) : Option Char := do
  let values ← digits.mapM Hex.digit?
  let code := values.foldl (fun n digit => 16 * n + digit) 0
  if code < 0xD800 || (0xDFFF < code && code < 0x110000) then some (Char.ofNat code) else none

/-- The character that a one-letter escape writes. -/
def escaped? : Char → Option Char
  | 'b' => some '\x08'
  | 't' => some '\t'
  | 'n' => some '\n'
  | 'f' => some '\x0c'
  | 'r' => some '\r'
  | 'e' => some '\x1b'
  | '"' => some '"'
  | '\\' => some '\\'
  | _ => none

/-- The rest of a basic string behind its opening quote, and what follows it. -/
def takeBasic : List Char → Option (List Char × List Char)
  | '"' :: rest => some ([], rest)
  | '\\' :: 'x' :: a :: b :: rest => do
    let c ← codeChar? [a, b]
    let (text, rest) ← takeBasic rest
    some (c :: text, rest)
  | '\\' :: 'u' :: a :: b :: c :: d :: rest => do
    let c ← codeChar? [a, b, c, d]
    let (text, rest) ← takeBasic rest
    some (c :: text, rest)
  | '\\' :: 'U' :: a :: b :: c :: d :: e :: f :: g :: h :: rest => do
    let c ← codeChar? [a, b, c, d, e, f, g, h]
    let (text, rest) ← takeBasic rest
    some (c :: text, rest)
  | '\\' :: letter :: rest => do
    let c ← escaped? letter
    let (text, rest) ← takeBasic rest
    some (c :: text, rest)
  | c :: rest =>
    if isPlain c && c ≠ '\\' then do
      let (text, rest) ← takeBasic rest
      some (c :: text, rest)
    else none
  | [] => none

/-- A text starts with the end of a line. -/
def atLineEnd : List Char → Bool
  | '\n' :: _ => true
  | '\r' :: '\n' :: _ => true
  | _ => false

/-- The rest of a basic string of many lines; blanks are passed over while `skipping`. -/
def takeLongBasic (skipping : Bool) : List Char → Option (List Char × List Char)
  | '"' :: '"' :: '"' :: '"' :: '"' :: rest => some (['"', '"'], rest)
  | '"' :: '"' :: '"' :: '"' :: rest => some (['"'], rest)
  | '"' :: '"' :: '"' :: rest => some ([], rest)
  | '\\' :: 'x' :: a :: b :: rest => do
    let c ← codeChar? [a, b]
    let (text, rest) ← takeLongBasic false rest
    some (c :: text, rest)
  | '\\' :: 'u' :: a :: b :: c :: d :: rest => do
    let c ← codeChar? [a, b, c, d]
    let (text, rest) ← takeLongBasic false rest
    some (c :: text, rest)
  | '\\' :: 'U' :: a :: b :: c :: d :: e :: f :: g :: h :: rest => do
    let c ← codeChar? [a, b, c, d, e, f, g, h]
    let (text, rest) ← takeLongBasic false rest
    some (c :: text, rest)
  | '\\' :: letter :: rest =>
    -- A backslash that ends its line swallows the line's end and the blanks after it.
    if atLineEnd ((letter :: rest).dropWhile fun c => c == ' ' || c == '\t') then
      takeLongBasic true rest
    else do
      let c ← escaped? letter
      let (text, rest) ← takeLongBasic false rest
      some (c :: text, rest)
  | c :: rest =>
    if skipping && (c == ' ' || c == '\t' || atLineEnd (c :: rest)) then
      -- Of a line end in two characters, the second is passed over next.
      takeLongBasic true rest
    else if (isPlain c && c ≠ '\\') || atLineEnd (c :: rest) then do
      let (text, rest) ← takeLongBasic false rest
      some (c :: text, rest)
    else none
  | [] => none

/-- The rest of a literal string behind its opening quote, and what follows it. -/
def takeLiteralString : List Char → Option (List Char × List Char)
  | '\'' :: rest => some ([], rest)
  | c :: rest =>
    if isPlain c then do
      let (text, rest) ← takeLiteralString rest
      some (c :: text, rest)
    else none
  | [] => none

/-- The rest of a literal string of many lines, and what follows it. -/
def takeLongLiteral : List Char → Option (List Char × List Char)
  | '\'' :: '\'' :: '\'' :: '\'' :: '\'' :: rest => some (['\'', '\''], rest)
  | '\'' :: '\'' :: '\'' :: '\'' :: rest => some (['\''], rest)
  | '\'' :: '\'' :: '\'' :: rest => some ([], rest)
  | c :: rest =>
    if isPlain c || atLineEnd (c :: rest) then do
      let (text, rest) ← takeLongLiteral rest
      some (c :: text, rest)
    else none
  | [] => none

/-- A text without the line end in front, if there is one. -/
def dropLineEnd : List Char → List Char
  | '\n' :: rest => rest
  | '\r' :: '\n' :: rest => rest
  | text => text

/-- Digits of a kind, with single underscores between some of them. -/
def isDigitRun (isDigit : Char → Bool) : List Char → Bool
  | [] => false
  | [c] => isDigit c
  | c :: '_' :: rest => isDigit c && isDigitRun isDigit rest
  | c :: rest => isDigit c && isDigitRun isDigit rest

/-- A text without a sign in front. -/
def dropSign : List Char → List Char
  | '+' :: rest => rest
  | '-' :: rest => rest
  | text => text

/-- Decimal digits without a leading zero. -/
def isWhole (text : List Char) : Bool :=
  isDigitRun Char.isDigit text && (text = ['0'] || text.head? ≠ some '0')

/-- A text without the underscores between its digits. -/
def dropUnderscores (text : List Char) : List Char := text.filter (· != '_')

/-- The number that digits of a base write. -/
def baseValue (base : Nat) (digits : List Char) : Nat :=
  digits.foldl (fun n c => base * n + (Hex.digit? c).getD 0) 0

/-- The integers of words of a hundred and twenty-eight bits, with or without a sign. -/
def fitsWord (n : Int) : Bool := -(Nat.pow 2 127 : Int) ≤ n && n < (Nat.pow 2 128 : Int)

/-- An integer of a base that fits a word. -/
def isBased (base : Nat) (isDigit : Char → Bool) (digits : List Char) : Bool :=
  isDigitRun isDigit digits && fitsWord (baseValue base (dropUnderscores digits))

/-- An integer that fits a word, decimal with a sign at will or in another base. -/
def isInteger (text : List Char) : Bool :=
  match text with
  | '0' :: 'x' :: digits => isBased 16 (fun c => (Hex.digit? c).isSome) digits
  | '0' :: 'o' :: digits => isBased 8 (fun c => '0' ≤ c && c ≤ '7') digits
  | '0' :: 'b' :: digits => isBased 2 (fun c => c == '0' || c == '1') digits
  | text => isWhole (dropSign text) && ((readInt? (dropUnderscores text)).any fitsWord)

/-- The parts of a float: a whole part with a fraction, a power of ten or both. -/
def isFloatBody (text : List Char) : Bool :=
  let body := dropSign text
  let isMark (c : Char) : Bool := c == 'e' || c == 'E'
  let mantissa := body.takeWhile fun c => !isMark c
  let power := body.dropWhile fun c => !isMark c
  let whole := mantissa.takeWhile (· != '.')
  let fraction := mantissa.dropWhile (· != '.')
  isWhole whole && (fraction ≠ [] || power ≠ []) &&
    (fraction = [] || isDigitRun Char.isDigit (fraction.drop 1)) &&
    (power = [] || isDigitRun Char.isDigit (dropSign (power.drop 1)))

/-- A float: digits that name a finite double, or a word. -/
def isFloat (text : List Char) : Bool :=
  let body := dropSign text
  if body = "inf".toList || body = "nan".toList then true
  else isFloatBody text && ((readDouble? (dropUnderscores text)).any Double.isFinite)

/-- What follows a calendar date. -/
def takeDate (text : List Char) : Option (List Char) := do
  let (year, rest) ← Timestamp.takeNumber 4 text
  let rest ← Timestamp.takeMark '-' rest
  let (month, rest) ← Timestamp.takeNumber 2 rest
  let rest ← Timestamp.takeMark '-' rest
  let (day, rest) ← Timestamp.takeNumber 2 rest
  if CalendarDate.isValid ⟨year, month, day⟩ then some rest else none

/-- What follows a time of day, whose seconds may be missing. -/
def takeTime (text : List Char) : Option (List Char) := do
  let (hour, rest) ← Timestamp.takeNumber 2 text
  let rest ← Timestamp.takeMark ':' rest
  let (minute, rest) ← Timestamp.takeNumber 2 rest
  if 23 < hour || 59 < minute then none
  else match rest with
    | ':' :: rest => do
      let (second, rest) ← Timestamp.takeNumber 2 rest
      let (_, rest) ← Timestamp.takeFraction rest
      if 60 < second then none else some rest
    | rest => some rest

/-- A date, a time, or both with an offset at will. -/
def isDateTime (text : List Char) : Bool :=
  match takeDate text with
  | some [] => true
  | some (mark :: rest) =>
    (mark == 'T' || mark == 't' || mark == ' ') && match takeTime rest with
      | some [] => true
      | some rest => ((Timestamp.takeOffset .document rest).map (·.2)) == some []
      | none => false
  | none => takeTime text == some []

/-- A word that is a scalar other than a string. -/
def isScalar (word : List Char) : Bool :=
  word = "true".toList || word = "false".toList || isInteger word || isFloat word ||
    isDateTime word

end DocSource.Toml
