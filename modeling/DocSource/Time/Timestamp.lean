import DocSource.Number.Digits
import DocSource.Time.Calendar

/-! RFC 3339 timestamps: reading them into milliseconds since 1970, and writing them. -/

namespace DocSource

/-- A timestamp by its parts; the offset is in minutes east of UTC. -/
structure Timestamp where
  date : CalendarDate
  hour : Nat
  minute : Nat
  second : Nat
  nanosecond : Nat
  offset : Int

namespace Timestamp

/-- What readers of timestamps disagree on. -/
structure Dialect where
  separator : Char → Bool
  minus : Char → Bool

/-- Document dates take any one byte between date and time, and the hyphen for a minus. -/
def Dialect.document : Dialect := ⟨fun c => c.toNat < 0x80, fun c => c == '-'⟩

/-- Command lines take a T or a blank between date and time, and the true minus sign too. -/
def Dialect.command : Dialect :=
  ⟨fun c => c == 'T' || c == 't' || c == ' ', fun c => c == '-' || c == '\u2212'⟩

/-- The number that exactly `count` digits write, and what follows them. -/
def takeNumber (count : Nat) (text : List Char) : Option (Nat × List Char) :=
  let digits := text.take count
  if digits.length = count && digits.all Char.isDigit then
    some (digitsValue digits, text.drop count)
  else none

/-- What follows one expected character. -/
def takeMark (mark : Char) : List Char → Option (List Char)
  | c :: rest => if c = mark then some rest else none
  | [] => none

/-- The nanoseconds of an optional fraction; digits beyond the ninth are passed over. -/
def takeFraction : List Char → Option (Nat × List Char)
  | '.' :: text =>
    let digits := text.takeWhile Char.isDigit
    if digits = [] then none
    else
      let nine := (digits ++ List.replicate 9 '0').take 9
      some (digitsValue nine, text.dropWhile Char.isDigit)
  | text => some (0, text)

/-- The offset at the end of a timestamp, in minutes. -/
def takeOffset (dialect : Dialect) : List Char → Option (Int × List Char)
  | c :: rest =>
    if c = 'Z' || c = 'z' then some (0, rest)
    else if c = '+' || dialect.minus c then do
      let (hours, rest) ← takeNumber 2 rest
      let rest ← takeMark ':' rest
      let (minutes, rest) ← takeNumber 2 rest
      if 23 < hours || 59 < minutes then none
      else
        let offset : Int := hours * 60 + minutes
        some (if c = '+' then offset else -offset, rest)
    else none
  | [] => none

/-- The parts of a timestamp's text, with every part in its range; second sixty is let through. -/
def read? (dialect : Dialect) (text : List Char) : Option Timestamp := do
  let (year, rest) ← takeNumber 4 text
  let rest ← takeMark '-' rest
  let (month, rest) ← takeNumber 2 rest
  let rest ← takeMark '-' rest
  let (day, rest) ← takeNumber 2 rest
  let (separator, rest) ← match rest with
    | c :: rest => some (c, rest)
    | [] => none
  let (hour, rest) ← takeNumber 2 rest
  let rest ← takeMark ':' rest
  let (minute, rest) ← takeNumber 2 rest
  let rest ← takeMark ':' rest
  let (second, rest) ← takeNumber 2 rest
  let (nanosecond, rest) ← takeFraction rest
  let (offset, rest) ← takeOffset dialect rest
  let date : CalendarDate := ⟨year, month, day⟩
  if dialect.separator separator && date.isValid && hour ≤ 23 && minute ≤ 59 && second ≤ 60 &&
      rest = [] then
    some ⟨date, hour, minute, second, nanosecond, offset⟩
  else none

/-- The whole seconds from 1970 to a timestamp, with a given second of its minute. -/
def secondsAt (t : Timestamp) (second : Nat) : Int :=
  let minutes : Int := (t.date.toDays * 24 + t.hour) * 60 + t.minute - t.offset
  minutes * 60 + second

/-- The last second of a month, in UTC. -/
def isMonthEnd (seconds : Int) : Bool :=
  let date := CalendarDate.ofDays (seconds / 86400)
  seconds % 86400 == 86399 && date.day == CalendarDate.monthLength date.year date.month

/-- The milliseconds of a document date, from its nanoseconds by truncation toward zero. -/
def documentMillis? (text : List Char) : Option Int := do
  let t ← read? .document text
  -- A leap second may only end a month, and stands for the nanosecond before it.
  if t.second = 60 then
    let seconds := t.secondsAt 59
    if isMonthEnd seconds then some ((seconds * 1000000000 + 999999999).tdiv 1000000) else none
  else some ((t.secondsAt t.second * 1000000000 + t.nanosecond).tdiv 1000000)

/-- The milliseconds of a command-line time, rounded down; a leap second adds one second. -/
def commandMillis? (text : List Char) : Option Int :=
  (read? .command text).map fun t => t.secondsAt t.second * 1000 + (t.nanosecond / 1000000 : Nat)

/-- A number in at least `width` digits. -/
def padded (width n : Nat) : List Char :=
  List.replicate (width - (natText n).length) '0' ++ natText n

/-- The fraction of a second without trailing zeros, behind a point unless there is none. -/
def fractionText (millis : Nat) : List Char :=
  let digits := ((padded 3 millis).reverse.dropWhile (· == '0')).reverse
  if digits = [] then [] else '.' :: digits

/-- The UTC timestamp of milliseconds since 1970; years beyond 9999 stop at its last instant. -/
def textOfMillis (millis : Int) : List Char :=
  let seconds := millis / 1000
  let date := CalendarDate.ofDays (seconds / 86400)
  let secondOfDay := (seconds % 86400).toNat
  if 9999 < date.year then "9999-12-31T23:59:59.999999999Z".toList
  else
    padded 4 date.year.toNat ++ '-' :: padded 2 date.month ++ '-' :: padded 2 date.day ++
      'T' :: padded 2 (secondOfDay / 3600) ++ ':' :: padded 2 (secondOfDay / 60 % 60) ++
      ':' :: padded 2 (secondOfDay % 60) ++ fractionText (millis % 1000).toNat ++ ['Z']

end Timestamp

end DocSource
