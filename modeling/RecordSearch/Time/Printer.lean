import RecordSearch.Time.Instant

/-!
Instants as text.

`Instant.render` shows whole seconds, `Instant.renderExact` adds the fraction with as many groups
of three digits as it needs, and `Instant.renderPlain` is the form with blanks that reports use.
-/

namespace RecordSearch.Time

def padded (width number : Nat) : List Char :=
  let digits := Nat.toDigits 10 number
  List.replicate (width - digits.length) '0' ++ digits

/-- Four digits, and a sign if they do not suffice. -/
def renderYear (year : Int) : List Char :=
  if 0 ≤ year ∧ year ≤ 9999 then padded 4 year.toNat
  else (if year < 0 then '-' else '+') :: padded 4 year.natAbs

namespace Date

def render (d : Date) : List Char :=
  renderYear d.year ++ '-' :: (padded 2 d.month ++ '-' :: padded 2 d.day)

end Date

namespace Instant

/-- Hours, minutes and seconds; a leap second is second 60. -/
def renderClock (at' : Instant) : List Char :=
  let s := at'.secondOfDay
  padded 2 (s / 3600) ++ ':' :: (padded 2 (s / 60 % 60) ++ ':' ::
    padded 2 (s % 60 + at'.nanos / 1000000000))

/-- The fraction with three, six or nine digits, or nothing if it is zero. -/
def renderFraction (at' : Instant) : List Char :=
  let fraction := at'.nanos % 1000000000
  if fraction = 0 then []
  else if fraction % 1000000 = 0 then '.' :: padded 3 (fraction / 1000000)
  else if fraction % 1000 = 0 then '.' :: padded 6 (fraction / 1000)
  else '.' :: padded 9 fraction

def render (at' : Instant) : List Char :=
  at'.date.render ++ 'T' :: (at'.renderClock ++ ['Z'])

def renderExact (at' : Instant) : List Char :=
  at'.date.render ++ 'T' :: (at'.renderClock ++ at'.renderFraction ++ ['Z'])

/-- Date, time and zone set apart by blanks. -/
def renderPlain (at' : Instant) : List Char :=
  at'.date.render ++ ' ' :: (at'.renderClock ++ at'.renderFraction ++ " UTC".toList)

def text (at' : Instant) : String := String.ofList at'.render

def exactText (at' : Instant) : String := String.ofList at'.renderExact

def plainText (at' : Instant) : String := String.ofList at'.renderPlain

end Instant

end RecordSearch.Time
