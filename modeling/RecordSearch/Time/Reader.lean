import RecordSearch.Time.Instant
import RecordSearch.Text.Blank
import RecordSearch.Text.Scan

/-!
Instants from text.

A format is a list of pieces, and `readAs` reads a text by one of them.  `instant?` tries the
formats of dates in queries in their order; `wireInstant?` reads the dates of data documents.
-/

namespace RecordSearch.Time

open RecordSearch.Text

def digitsValue (digits : List Char) : Nat :=
  digits.foldl (fun value c => value * 10 + (c.toNat - '0'.toNat)) 0

/-- A number of at least `least` digits; of the digits there, at most `most` are taken. -/
def number (least most : Nat) : Scan Nat := fun s =>
  let digits := (s.take most).takeWhile isAsciiDigit
  if least ≤ digits.length then some (digitsValue digits, s.drop digits.length) else none

def skipBlanks (s : List Char) : List Char := s.dropWhile isBlank

/-- A year: up to four digits, or any number of them after a sign. -/
def signedYear : Scan Int
  | '-' :: rest => (number 1 rest.length rest).map fun r => (-(r.1 : Int), r.2)
  | '+' :: rest => (number 1 rest.length rest).map fun r => ((r.1 : Int), r.2)
  | s => (number 1 4 s).map fun r => ((r.1 : Int), r.2)

/-- The digits after the point as nanoseconds; those after the ninth are dropped. -/
def nanoseconds : Scan Nat := fun s =>
  let digits := s.takeWhile isAsciiDigit
  let kept := digits.take 9
  if digits.isEmpty then none
  else some (digitsValue kept * Nat.pow 10 (9 - kept.length), s.drop digits.length)

def fraction : Scan Nat
  | '.' :: rest => nanoseconds rest
  | s => some (0, s)

/-- Hours and minutes from UTC after a sign, in seconds; `between` reads what sets them apart. -/
def signedOffset (between : List Char → Option (List Char)) : Scan Int := fun s => do
  let (sign, rest) ← match s with
    | '+' :: rest => some ((1 : Int), rest)
    | '-' :: rest => some (-1, rest)
    | '−' :: rest => some (-1, rest)
    | _ => none
  let (hours, rest) ← number 2 2 rest
  let rest ← between rest
  let (minutes, rest) ← number 2 2 rest
  if minutes < 60 then some (sign * (hours * 3600 + minutes * 60 : Nat), rest) else none

def looseBetween (s : List Char) : Option (List Char) :=
  some (s.dropWhile fun c => c == ':' || isBlank c)

def zulu : Scan Int
  | 'Z' :: rest => some (0, rest)
  | 'z' :: rest => some (0, rest)
  | _ => none

def utc : Scan Int
  | u :: t :: c :: rest =>
    if asciiLower u = 'u' ∧ asciiLower t = 't' ∧ asciiLower c = 'c' then some (0, rest) else none
  | _ => none

inductive Piece where
  /-- Four digits. -/
  | fullYear
  /-- Blanks, then a year with an optional sign. -/
  | year
  | month (exact : Bool)
  | day (exact : Bool)
  | hour (exact : Bool)
  | minute (exact : Bool)
  | second (exact : Bool)
  | fraction
  /-- `Z`, or an offset with a colon. -/
  | offset
  /-- Blanks, then an offset with or without a colon, but no `Z`. -/
  | looseOffset
  /-- Blanks, then `UTC`, `Z` or an offset. -/
  | anyOffset
  /-- `T`, `t` or a blank. -/
  | separator
  | blanks
  | char (c : Char)
  deriving DecidableEq, Repr

/-- Two digits exactly, or blanks and then one or two digits. -/
def pair (exact : Bool) : Scan Nat := fun s =>
  if exact then number 2 2 s else number 1 2 (skipBlanks s)

namespace Piece

def read (t : LocalTime) (s : List Char) : Piece → Option (LocalTime × List Char)
  | fullYear => (number 4 4 s).map fun r => ({ t with year := r.1 }, r.2)
  | year => (signedYear (skipBlanks s)).map fun r => ({ t with year := r.1 }, r.2)
  | month exact => (pair exact s).map fun r => ({ t with month := r.1 }, r.2)
  | day exact => (pair exact s).map fun r => ({ t with day := r.1 }, r.2)
  | hour exact => (pair exact s).map fun r => ({ t with hour := r.1 }, r.2)
  | minute exact => (pair exact s).map fun r => ({ t with minute := r.1 }, r.2)
  | second exact => (pair exact s).map fun r => ({ t with second := r.1 }, r.2)
  | fraction => (Time.fraction s).map fun r => ({ t with nanos := r.1 }, r.2)
  | offset =>
    ((zulu s).or (signedOffset (fun s => (Scan.char ':' s).map (·.2)) s)).map fun r =>
      ({ t with offset := r.1 }, r.2)
  | looseOffset =>
    (signedOffset looseBetween (skipBlanks s)).map fun r => ({ t with offset := r.1 }, r.2)
  | anyOffset =>
    let s := skipBlanks s
    (((utc s).or (zulu s)).or (signedOffset looseBetween s)).map fun r =>
      ({ t with offset := r.1 }, r.2)
  | separator =>
    match s with
    | c :: rest => if c = 'T' ∨ c = 't' ∨ c = ' ' then some (t, rest) else none
    | [] => none
  | blanks => some (t, skipBlanks s)
  | char c => (Scan.char c s).map fun r => (t, r.2)

end Piece

def readPieces (t : LocalTime) (s : List Char) : List Piece → Option (LocalTime × List Char)
  | [] => some (t, s)
  | piece :: rest =>
    match piece.read t s with
    | some (t, s) => readPieces t s rest
    | none => none

/-- The moment of a text that a format reads in full. -/
def readAs (format : List Piece) (s : List Char) : Option Instant :=
  match readPieces {} s format with
  | some (t, []) => t.instant?
  | _ => none

def strictFormat : List Piece :=
  [.fullYear, .char '-', .month true, .char '-', .day true, .separator,
    .hour true, .char ':', .minute true, .char ':', .second true, .fraction, .offset]

def datePieces : List Piece :=
  [.year, .char '-', .month false, .char '-', .day false]

def minutePieces : List Piece :=
  datePieces ++ [.char 'T', .hour false, .char ':', .minute false]

def secondPieces : List Piece :=
  minutePieces ++ [.char ':', .second false, .fraction]

/-- The formats of a date in a query; the first that reads the whole text decides. -/
def formats : List (List Piece) :=
  [strictFormat, secondPieces ++ [.looseOffset], minutePieces ++ [.looseOffset],
    secondPieces, minutePieces, datePieces]

/-- The moment that a text in a query names; without an offset the text is UTC, and without a time
it is midnight. -/
def instant? (text : String) : Option Instant :=
  formats.findSome? (readAs · text.toList)

def wireFormat : List Piece :=
  [.year, .blanks, .char '-', .month false, .blanks, .char '-', .day false, .separator,
    .hour false, .blanks, .char ':', .minute false, .blanks, .char ':', .second false,
    .fraction, .blanks, .anyOffset, .blanks]

def wireInstant? (text : String) : Option Instant := readAs wireFormat text.toList

end RecordSearch.Time
