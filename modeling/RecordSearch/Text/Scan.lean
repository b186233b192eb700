import RecordSearch.Text.Letter

/-!
Scanning the head of a text.

A scan returns what it took and what is left.  The scans of type `Scan (List Char)` return the
very characters they took, so they can be put one after another.
-/

namespace RecordSearch.Text

/-- Reads the head of a text and returns what is left. -/
abbrev Scan (α : Type) := List Char → Option (α × List Char)

namespace Scan

def char (c : Char) : Scan (List Char)
  | [] => none
  | d :: rest => if d = c then some ([c], rest) else none

def one (p : Char → Bool) : Scan (List Char)
  | [] => none
  | d :: rest => if p d then some ([d], rest) else none

def exactly (p : Char → Bool) : Nat → Scan (List Char)
  | 0, s => some ([], s)
  | _ + 1, [] => none
  | n + 1, d :: rest =>
    if p d then (exactly p n rest).map fun r => (d :: r.1, r.2) else none

/-- As many characters of a class as there are, at least one. -/
def some (p : Char → Bool) : Scan (List Char) := fun s =>
  match s.takeWhile p with
  | [] => none
  | taken => Option.some (taken, s.dropWhile p)

def optional (scan : Scan (List Char)) : Scan (List Char) := fun s =>
  Option.some ((scan s).getD ([], s))

def either (a b : Scan (List Char)) : Scan (List Char) := fun s => (a s).or (b s)

def sequence : List (Scan (List Char)) → Scan (List Char)
  | [], s => Option.some ([], s)
  | scan :: scans, s =>
    match scan s with
    | none => none
    | Option.some (taken, rest) => (sequence scans rest).map fun r => (taken ++ r.1, r.2)

/-- A scan whose success must not be followed by a character of a class. -/
def closed (p : Char → Bool) (scan : Scan (List Char)) : Scan (List Char) := fun s =>
  match scan s with
  | Option.some (taken, rest) => if (rest.head?.map p).getD false then none else Option.some (taken, rest)
  | none => none

/-- A word of lower-case letters, in any letter case. -/
def caseless : List Char → Scan (List Char)
  | [], s => Option.some ([], s)
  | _ :: _, [] => none
  | w :: ws, d :: rest =>
    if asciiLower d = w then (caseless ws rest).map fun r => (d :: r.1, r.2) else none

end Scan

end RecordSearch.Text
