import RecordSearch.Text.Scan

/-!
The words of the query language: blanks, names, keywords, quoted texts, numbers and dates.
-/

namespace RecordSearch.Grammar

open RecordSearch.Text

def isSpace (c : Char) : Bool := c == ' ' || c == '\t' || c == '\r' || c == '\n'

def isNameStart (c : Char) : Bool := isAsciiLetter c || c == '_'

def isNameChar (c : Char) : Bool :=
  isAsciiLetter c || isAsciiDigit c || c == '_' || c == '.' || c == ':'

/-- A keyword in any letter case, at the end of a name. -/
def keyword (word : String) : Scan (List Char) :=
  .closed isNameChar (.caseless word.toList)

/-- The reserved words, in the order in which they are compared with a name. -/
def reservedWords : List String :=
  ["and", "or", "not", "like", "ilike", "between", "is", "null", "in", "before", "after", "during",
    "include", "exclude"]

/-- Whether a text begins with a reserved word. Only the first reserved word that the text begins
with counts, so that `in` hides `include`. -/
def beginsReserved (s : List Char) : Bool :=
  match reservedWords.findSome? fun word => Scan.caseless word.toList s with
  | some (_, rest) => !(rest.head?.map isNameChar).getD false
  | none => false

def plainName : Scan (List Char) := fun s =>
  if beginsReserved s then none
  else Scan.sequence [.one isNameStart, .optional (.some isNameChar)] s

/-- A name that is neither a reserved word nor `id`. -/
def bareName : Scan (List Char) := fun s =>
  if (keyword "id" s).isSome then none else plainName s

/-- One character at least, up to a double quote or the end. -/
def quotedName : Scan (List Char) := .some (· != '"')

/-- The rest of a quoted text after the opening quote; a doubled quote stands for one quote. -/
def textBody (done : List Char) : Scan (List Char)
  | '\'' :: '\'' :: rest => textBody ('\'' :: done) rest
  | '\'' :: rest => some (done.reverse, rest)
  | c :: rest => textBody (c :: done) rest
  | [] => none

def quotedText : Scan (List Char)
  | '\'' :: rest => textBody [] rest
  | _ => none

def numberText : Scan (List Char) :=
  .closed isNameChar (.sequence
    [.optional (.char '-'), .some isAsciiDigit,
      .optional (.sequence [.char '.', .some isAsciiDigit])])

def twoDigits : Scan (List Char) := .exactly isAsciiDigit 2

def zoneText : Scan (List Char) :=
  .either (.char 'Z')
    (.sequence [.either (.char '+') (.char '-'), twoDigits, .optional (.char ':'), twoDigits])

def secondText : Scan (List Char) :=
  .sequence [.char ':', twoDigits, .optional (.sequence [.char '.', .some isAsciiDigit])]

def timeText : Scan (List Char) :=
  .sequence [.char 'T', twoDigits, .char ':', twoDigits, .optional secondText, .optional zoneText]

/-- A date with an optional time of day, which may have an offset. -/
def dateText : Scan (List Char) :=
  .closed isNameChar (.sequence
    [.exactly isAsciiDigit 4, .char '-', twoDigits, .char '-', twoDigits, .optional timeText])

end RecordSearch.Grammar
