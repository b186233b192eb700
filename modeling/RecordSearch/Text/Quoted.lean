import RecordSearch.Text.Letter
import RecordSearch.Text.Property.Extend
import RecordSearch.Text.Property.Unprintable

/-!
Two ways to put a text in quotes.

A literal of the query language stands in single quotes, and a quote within it is doubled.
A report stands in double quotes, and every character that could not be read is escaped.
-/

namespace RecordSearch.Text.Quoted

def double (s : List Char) : List Char :=
  s.flatMap fun c => if c = '\'' then ['\'', '\''] else [c]

def literal (s : List Char) : List Char := '\'' :: (double s ++ ['\''])

def hex (code : Nat) : List Char := Nat.toDigits 16 code

/-- Whether a report shows a character as itself. -/
def isShown (c : Char) : Bool :=
  if c.toNat < 0x80 then 0x20 ≤ c.toNat && c.toNat < 0x7F
  else !inRanges Property.unprintable c && !inRanges Property.extend c

def escapeChar (c : Char) : List Char :=
  match c with
  | '\x00' => ['\\', '0']
  | '\t' => ['\\', 't']
  | '\r' => ['\\', 'r']
  | '\n' => ['\\', 'n']
  | '"' => ['\\', '"']
  | '\\' => ['\\', '\\']
  | _ =>
    if isShown c then [c]
    else ['\\', 'u', Char.ofNat 0x7B] ++ hex c.toNat ++ [Char.ofNat 0x7D]

def report (s : String) : String :=
  String.ofList ('"' :: (s.toList.flatMap escapeChar ++ ['"']))

def reportList (items : List String) : String :=
  "[" ++ ", ".intercalate (items.map report) ++ "]"

def reportOption : Option String → String
  | some s => "Some(" ++ report s ++ ")"
  | none => "None"

end RecordSearch.Text.Quoted
