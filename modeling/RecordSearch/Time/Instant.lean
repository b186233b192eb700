import RecordSearch.Time.Civil

/-!
Instants of Coordinated Universal Time.
-/

namespace RecordSearch.Time

/-- A moment: whole seconds since the start of 1970, and nanoseconds within the second.

A leap second is the second half of the second before it: its nanoseconds begin at 10⁹. -/
structure Instant where
  seconds : Int
  nanos : Nat
  nanos_lt : nanos < 2000000000 := by decide
  deriving DecidableEq, Repr

namespace Instant

def ofSeconds (seconds : Int) : Instant := ⟨seconds, 0, by decide⟩

def lt (a b : Instant) : Bool :=
  a.seconds < b.seconds || (a.seconds == b.seconds && a.nanos < b.nanos)

/-- The start of the second that a moment lies in; a leap second belongs to the second before. -/
def floor (at' : Instant) : Instant := ofSeconds at'.seconds

/-- A moment with its fraction dropped; a leap second stays a leap second. -/
def dropFraction (at' : Instant) : Instant :=
  ⟨at'.seconds, if at'.nanos < 1000000000 then 0 else 1000000000, by split <;> decide⟩

def date (at' : Instant) : Date := Date.ofDayNumber (at'.seconds / 86400)

def secondOfDay (at' : Instant) : Nat := (at'.seconds % 86400).toNat

end Instant

/-- A date with a time of day and the distance of its clock from UTC, in seconds. -/
structure LocalTime where
  year : Int := 1970
  month : Nat := 1
  day : Nat := 1
  hour : Nat := 0
  minute : Nat := 0
  second : Nat := 0
  nanos : Nat := 0
  offset : Int := 0
  deriving DecidableEq, Repr

namespace LocalTime

def date (t : LocalTime) : Date := ⟨t.year, t.month, t.day⟩

/-- Seconds since the start of 1970 on the local clock, where second 60 is second 59. -/
def clockSeconds (t : LocalTime) : Int :=
  t.date.dayNumber * 86400 + (t.hour * 3600 + t.minute * 60 + min t.second 59 : Nat)

/-- The moment of a local time, if there is such a day and such a time of day, the offset is less
than a day, and the moment lies in the calendar. -/
def instant? (t : LocalTime) : Option Instant :=
  let nanos := if t.second = 60 then t.nanos + 1000000000 else t.nanos
  if t.date.isValid && t.hour < 24 && t.minute < 60 && t.second ≤ 60 &&
      -86400 < t.offset && t.offset < 86400 then
    let seconds := t.clockSeconds - t.offset
    let year := (Date.ofDayNumber (seconds / 86400)).year
    if h : nanos < 2000000000 then
      if firstYear ≤ year && year ≤ lastYear then some ⟨seconds, nanos, h⟩ else none
    else none
  else none

end LocalTime

end RecordSearch.Time
