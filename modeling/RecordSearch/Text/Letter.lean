import RecordSearch.Text.Property.Alphabetic
import RecordSearch.Text.Property.Numeric
import RecordSearch.Text.Property.LetterCase

/-!
Letters, digits and letter case.

The classes and mappings are those of Unicode.  Below U+0080 they are written out, so that a
statement about ASCII text never opens a table.
-/

namespace RecordSearch.Text

def inRanges (ranges : Array (Nat × Nat)) (c : Char) : Bool :=
  ranges.any fun range => range.1 ≤ c.toNat && c.toNat ≤ range.2

def isAsciiUpper (c : Char) : Bool := 'A' ≤ c && c ≤ 'Z'

def isAsciiLower (c : Char) : Bool := 'a' ≤ c && c ≤ 'z'

def isAsciiLetter (c : Char) : Bool := isAsciiUpper c || isAsciiLower c

def isAsciiDigit (c : Char) : Bool := '0' ≤ c && c ≤ '9'

def asciiLower (c : Char) : Char :=
  if isAsciiUpper c then Char.ofNat (c.toNat + 32) else c

/-- Whether a character is a letter in the sense of the property Alphabetic. -/
def isAlphabetic (c : Char) : Bool :=
  if c.toNat < 0x80 then isAsciiLetter c else inRanges Property.alphabetic c

def isNumeric (c : Char) : Bool :=
  if c.toNat < 0x80 then isAsciiDigit c else inRanges Property.numeric c

def isAlphanumeric (c : Char) : Bool := isAlphabetic c || isNumeric c

namespace Property.CaseRun

def contains (run : CaseRun) (code : Nat) : Bool :=
  run.first ≤ code && code ≤ run.last && (code - run.first) % run.step == 0

def image (run : CaseRun) (code : Nat) : Char :=
  Char.ofNat ((code : Int) + run.shift).toNat

end Property.CaseRun

/-- The image of a character under a case mapping given by runs and expansions. -/
def mapCase (runs : Array Property.CaseRun) (expansions : Array (Nat × List Nat)) (c : Char) :
    List Char :=
  match runs.find? (·.contains c.toNat) with
  | some run => [run.image c.toNat]
  | none =>
    match expansions.find? (·.1 == c.toNat) with
    | some expansion => expansion.2.map Char.ofNat
    | none => [c]

/-- The lower-case form of one character, seen without its neighbours. -/
def lower (c : Char) : List Char :=
  if c.toNat < 0x80 then [asciiLower c]
  else mapCase Property.lowerRuns Property.lowerExpansions c

def upper (c : Char) : List Char :=
  if c.toNat < 0x80 then [if isAsciiLower c then Char.ofNat (c.toNat - 32) else c]
  else mapCase Property.upperRuns Property.upperExpansions c

def asciiLowerText (s : String) : String := String.ofList (s.toList.map asciiLower)

end RecordSearch.Text
