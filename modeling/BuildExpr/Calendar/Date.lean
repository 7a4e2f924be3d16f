import BuildExpr.Number.Numeral

/-!
# Dates

Dates of the Gregorian calendar, continued into the past, with the year 0 before the year 1.
`Date.dayNumber` counts the days since 1 January of year 1 and `Date.ofDayNumber?` goes back.
-/

namespace BuildExpr

/-- Whether a year has a 29 February. -/
def isLeapYear (year : Int) : Bool :=
  year % 4 == 0 && (year % 100 != 0 || year % 400 == 0)

/-- The lengths of the months of a year. -/
def monthLengths (leap : Bool) : List Nat :=
  [31, if leap then 29 else 28, 31, 30, 31, 30, 31, 31, 30, 31, 30, 31]

/-- The length of a month from 1 to 12, and zero for any other. -/
def daysInMonth (year : Int) (month : Nat) : Nat :=
  if month = 0 then 0 else (monthLengths (isLeapYear year)).getD (month - 1) 0

/-- The first year that has dates. -/
def Date.firstYear : Int := -262143

/-- The last year that has dates. -/
def Date.lastYear : Int := 262142

/-- Whether three numbers name a date. -/
def Date.isValid (year : Int) (month day : Nat) : Bool :=
  decide (firstYear ≤ year ∧ year ≤ lastYear ∧ 1 ≤ day ∧ day ≤ daysInMonth year month)

/-- A day of the calendar. -/
structure Date where
  year : Int
  month : Nat
  day : Nat
  valid : Date.isValid year month day = true
  deriving DecidableEq

namespace Date

/-- The date with three numbers, when there is one. -/
def ofParts? (year : Int) (month day : Nat) : Option Date :=
  if h : isValid year month day = true then some ⟨year, month, day, h⟩ else none

/-- The number of days of a year before a month. -/
def daysBeforeMonth (leap : Bool) (month : Nat) : Nat :=
  ((monthLengths leap).take (month - 1)).foldl (· + ·) 0

/-- The number of a day in its year, from 1. -/
def dayOfYear (d : Date) : Nat := daysBeforeMonth (isLeapYear d.year) d.month + d.day

/-- The number of days from 1 January of year 1 to 1 January of a year. -/
def daysBeforeYear (year : Int) : Int :=
  let y := year - 1
  365 * y + y / 4 - y / 100 + y / 400

/-- The number of days from 1 January of year 1. -/
def dayNumber (d : Date) : Int := daysBeforeYear d.year + d.dayOfYear - 1

/-- The month and the day of the month of a day counted from 0 in its year. -/
def monthAndDay (month rest : Nat) : List Nat → Nat × Nat
  | [] => (month, rest + 1)
  | length :: lengths =>
    if rest < length then (month, rest + 1) else monthAndDay (month + 1) (rest - length) lengths

/-- The year that holds a day number, and the days of that year before it: whole periods of
400, 100, 4 and 1 years are taken off in turn. -/
def yearAndRest (n : Int) : Int × Nat :=
  let era := n / 146097
  let inEra := (n % 146097).toNat
  let century := min (inEra / 36524) 3
  let inCentury := inEra - century * 36524
  let cycle := inCentury / 1461
  let inCycle := inCentury % 1461
  let year := min (inCycle / 365) 3
  (400 * era + 100 * century + 4 * cycle + year + 1, inCycle - year * 365)

/-- The date with a day number, unless it lies outside the years that have dates. -/
def ofDayNumber? (n : Int) : Option Date :=
  let (year, rest) := yearAndRest n
  let (month, day) := monthAndDay 1 rest (monthLengths (isLeapYear year))
  ofParts? year month day

/-- The date a number of days later. -/
def addDays? (d : Date) (days : Int) : Option Date := ofDayNumber? (d.dayNumber + days)

/-- The day of the week, where Monday is 0. -/
def weekday (d : Date) : Nat := (d.dayNumber % 7).toNat

/-- A year with four digits at least, and with a sign outside 0 to 9999. -/
def yearText (year : Int) : List Char :=
  let digits := Numeral.padded 4 (Numeral.decimal year.natAbs)
  if 0 ≤ year ∧ year ≤ 9999 then digits
  else if 0 ≤ year then '+' :: digits else '-' :: digits

end Date

end BuildExpr
