/-!
Days of the proleptic Gregorian calendar.

`Date.dayNumber` counts days from 1 January 1970 and `Date.ofDayNumber` is its inverse.  Both walk
the same cycles: four hundred years, a century, four years, one year, one month.
-/

namespace RecordSearch.Time

def isLeapYear (year : Int) : Bool :=
  year % 4 == 0 && (year % 100 != 0 || year % 400 == 0)

def monthLengths (leap : Bool) : List Nat :=
  [31, if leap then 29 else 28, 31, 30, 31, 30, 31, 31, 30, 31, 30, 31]

structure Date where
  year : Int
  month : Nat
  day : Nat
  deriving DecidableEq, Repr

/-- The first and the last year of the calendar. -/
def firstYear : Int := -262143

def lastYear : Int := 262142

namespace Date

def isValid (d : Date) : Bool :=
  firstYear ≤ d.year && d.year ≤ lastYear && 1 ≤ d.month && d.month ≤ 12 && 1 ≤ d.day &&
    d.day ≤ (monthLengths (isLeapYear d.year)).getD (d.month - 1) 0

/-- The days before a year, from the first day of year 1. -/
def daysBeforeYear (year : Int) : Int :=
  let past := year - 1
  365 * past + past / 4 - past / 100 + past / 400

def dayOfYear (d : Date) : Nat :=
  ((monthLengths (isLeapYear d.year)).take (d.month - 1)).foldr (· + ·) 0 + (d.day - 1)

/-- The day number of 1 January 1970, counted from the first day of year 1. -/
def epoch : Int := 719162

def dayNumber (d : Date) : Int := daysBeforeYear d.year + d.dayOfYear - epoch

/-- The month and day that lie `days` days after the start of the month numbered `month`. -/
def monthDay : List Nat → Nat → Nat → Nat × Nat
  | [], month, days => (month, days + 1)
  | length :: rest, month, days =>
    if days < length then (month, days + 1) else monthDay rest (month + 1) (days - length)

def ofDayNumber (number : Int) : Date :=
  let days := number + epoch
  let era := days / 146097
  let inEra := (days % 146097).toNat
  let century := min (inEra / 36524) 3
  let inCentury := inEra - century * 36524
  let quad := inCentury / 1461
  let inQuad := inCentury % 1461
  let single := min (inQuad / 365) 3
  let inYear := inQuad - single * 365
  let year := era * 400 + (century * 100 + quad * 4 + single + 1 : Nat)
  let found := monthDay (monthLengths (isLeapYear year)) 1 inYear
  ⟨year, found.1, found.2⟩

end Date

end RecordSearch.Time
