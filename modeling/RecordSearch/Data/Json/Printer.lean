import RecordSearch.Data.Json
import RecordSearch.Text.Quoted

/-!
Writing JSON texts, without blanks between values.
-/

namespace RecordSearch.Json

open RecordSearch.Text

def writeChar (c : Char) : List Char :=
  if c = '"' || c = '\\' then ['\\', c]
  else if c = '\n' then ['\\', 'n']
  else if c = '\r' then ['\\', 'r']
  else if c = '\t' then ['\\', 't']
  else if c.toNat < 0x20 then
    let digits := Nat.toDigits 16 c.toNat
    ['\\', 'u'] ++ List.replicate (4 - digits.length) '0' ++ digits
  else [c]

def writeText (s : String) : List Char := '"' :: (s.toList.flatMap writeChar ++ ['"'])

mutual

/-- A document as a text; what has no value is null. -/
def write : Tree → List Char
  | .null => "null".toList
  | .bool true => "true".toList
  | .bool false => "false".toList
  | .int n => (toString n).toList
  | .real s => s.toList
  | .text s => writeText s
  | .plain s => writeText s
  | .broken => "null".toList
  | .list items => '[' :: writeItems items
  | .record entries => Char.ofNat 0x7B :: writeEntries entries

def writeItems : List Tree → List Char
  | [] => [']']
  | [t] => write t ++ [']']
  | t :: rest => write t ++ ',' :: writeItems rest

def writeEntries : List (Option String × Tree) → List Char
  | [] => [Char.ofNat 0x7D]
  | [(key, t)] => writeText (key.getD "") ++ ':' :: (write t ++ [Char.ofNat 0x7D])
  | (key, t) :: rest => writeText (key.getD "") ++ ':' :: (write t ++ ',' :: writeEntries rest)

end

end RecordSearch.Json
