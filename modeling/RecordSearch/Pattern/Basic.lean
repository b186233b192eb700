import RecordSearch.Text.Letter

/-!
Patterns that match a value as a whole.

A pattern is a list of items, each of which stands for one character or for a run of characters.
`Pattern.Matches` says what a pattern means, and `Pattern.accepts` decides it in one pass over the
value, with the set of the places in the pattern that the pass may have reached.
-/

namespace RecordSearch

open RecordSearch.Text

namespace Pattern

inductive Item where
  | char (c : Char)
  /-- One of two characters. -/
  | either (c d : Char)
  /-- Any character but a line feed. -/
  | any
  /-- Any number of characters that are no line feed. -/
  | run
  deriving DecidableEq, Repr

def Item.admits : Item → Char → Bool
  | .char d, c => c == d
  | .either d e, c => c == d || c == e
  | .any, c => c != '\n'
  | .run, c => c != '\n'

end Pattern

abbrev Pattern := List Pattern.Item

namespace Pattern

inductive Matches : Pattern → List Char → Prop where
  | nil : Matches [] []
  | single {item : Item} {rest : Pattern} {c : Char} {s : List Char} :
      item ≠ .run → item.admits c = true → Matches rest s → Matches (item :: rest) (c :: s)
  | skip {rest : Pattern} {s : List Char} : Matches rest s → Matches (.run :: rest) s
  | more {rest : Pattern} {c : Char} {s : List Char} :
      Item.run.admits c = true → Matches (.run :: rest) s → Matches (.run :: rest) (c :: s)

/-- The places of a pattern that are reached before any character is read, if the first one is
reached. There is one place before each item and one at the end. -/
def start (reached : Bool) : Pattern → List Bool
  | [] => [reached]
  | .run :: rest => reached :: start reached rest
  | _ :: rest => reached :: start false rest

/-- The places that are reached after one more character. -/
def advance (c : Char) (reached : Bool) : Pattern → List Bool → List Bool
  | [], _ => [reached]
  | .run :: rest, live :: later =>
    let here := reached || (live && Item.run.admits c)
    here :: advance c here rest later
  | item :: rest, live :: later => reached :: advance c (live && item.admits c) rest later
  | _ :: _, [] => []

def accepts (p : Pattern) (s : List Char) : Bool :=
  ((s.foldl (fun live c => advance c false p live) (start true p)).getLast?).getD false

def anything : Pattern := [.run]

def isSpecial (c : Char) : Bool :=
  ['\\', '.', '+', '*', '?', '(', ')', '|', '[', ']', Char.ofNat 0x7B, Char.ofNat 0x7D, '^',
    '$'].contains c

def Item.source : Item → List Char
  | .char c => if isSpecial c then ['\\', c] else [c]
  | .either c d => ['[', c, d, ']']
  | .any => ['.']
  | .run => ['.', '*']

def source (p : Pattern) : String := String.ofList (p.flatMap Item.source)

/-- A letter in both cases, if each case is one character and the two differ. -/
def bothCases (c : Char) : Item :=
  match lower c, upper c with
  | [l], [u] => if l = u then .char c else .either l u
  | _, _ => .char c

def likeItem (ignoreCase : Bool) (c : Char) : Item :=
  if c = '%' then .run
  else if c = '_' then .any
  else if ignoreCase && isAlphabetic c then bothCases c
  else .char c

/-- What a LIKE pattern means: `%` is a run, `_` is any character, and others are themselves. -/
def ofLike (ignoreCase : Bool) (text : String) : Pattern := text.toList.map (likeItem ignoreCase)

def ofWord (word : String) : Pattern := word.toList.map .char

end Pattern

end RecordSearch
