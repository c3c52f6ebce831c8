/-! The Gregorian calendar: dates as days since the start of 1970, and back. -/

namespace DocSource

/-- A year, month and day. -/
structure CalendarDate where
  year : Int
  month : Nat
  day : Nat
  deriving DecidableEq

namespace CalendarDate

/-- A year of three hundred and sixty-six days. -/
def isLeapYear (year : Int) : Bool := year % 4 == 0 && (year % 100 != 0 || year % 400 == 0)

/-- How many days a month has. -/
def monthLength (year : Int) (month : Nat) : Nat :=
  match month with
  | 2 => if isLeapYear year then 29 else 28
  | 4 | 6 | 9 | 11 => 30
  | _ => 31

/-- The months are numbered from one to twelve, and the days from one to the month's length. -/
def isValid (date : CalendarDate) : Bool :=
  1 ≤ date.month && date.month ≤ 12 && 1 ≤ date.day &&
    date.day ≤ monthLength date.year date.month

/-- The days from the start of 1970 to a date, negative before it. -/
def toDays (date : CalendarDate) : Int :=
  -- Years are counted from March, so that a leap day comes last in its year.
  let year := if date.month ≤ 2 then date.year - 1 else date.year
  let month := (date.month + 9) % 12
  let dayOfYear : Int := ((153 * month + 2) / 5 + date.day - 1 : Nat)
  let era := year / 400
  let yearOfEra := year % 400
  let dayOfEra := yearOfEra * 365 + yearOfEra / 4 - yearOfEra / 100 + dayOfYear
  era * 146097 + dayOfEra - 719468

/-- The date that lies a number of days after the start of 1970. -/
def ofDays (days : Int) : CalendarDate :=
  let shifted := days + 719468
  let era := shifted / 146097
  let dayOfEra := (shifted % 146097).toNat
  let yearOfEra := (dayOfEra - dayOfEra / 1460 + dayOfEra / 36524 - dayOfEra / 146096) / 365
  let dayOfYear := dayOfEra - (365 * yearOfEra + yearOfEra / 4 - yearOfEra / 100)
  let month := (5 * dayOfYear + 2) / 153
  let day := dayOfYear - (153 * month + 2) / 5 + 1
  let month := if month < 10 then month + 3 else month - 9
  let year : Int := yearOfEra + era * 400
  ⟨if month ≤ 2 then year + 1 else year, month, day⟩

end CalendarDate

end DocSource
