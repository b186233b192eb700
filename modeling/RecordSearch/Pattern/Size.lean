import RecordSearch.Pattern.Basic
import RecordSearch.Text.Utf8

/-!
The size of a pattern: how many states a deterministic automaton for it has.

The automaton reads the bytes of a value.  A state is the set of the places in the pattern whose
byte may come next; places are told apart also within the forms that one item may take as bytes.
Patterns with more states than `stateLimit` are refused.
-/

namespace RecordSearch.Pattern

open RecordSearch.Text

/-- The byte ranges of one form of an item. -/
abbrev Form := List (UInt8 × UInt8)

def anyForms : List Form :=
  let tail : UInt8 × UInt8 := (0x80, 0xBF)
  [[(0x00, 0x09)], [(0x0B, 0x7F)],
    [(0xC2, 0xDF), tail],
    [(0xE0, 0xE0), (0xA0, 0xBF), tail],
    [(0xE1, 0xEC), tail, tail],
    [(0xED, 0xED), (0x80, 0x9F), tail],
    [(0xEE, 0xEF), tail, tail],
    [(0xF0, 0xF0), (0x90, 0xBF), tail, tail],
    [(0xF1, 0xF3), tail, tail, tail],
    [(0xF4, 0xF4), (0x80, 0x8F), tail, tail]]

def charForm (c : Char) : Form := (String.utf8EncodeChar c).map fun b => (b, b)

def Item.forms : Item → List Form
  | .char c => [charForm c]
  | .either c d => [charForm c, charForm d]
  | .any => anyForms
  | .run => anyForms

/-- A byte within a form of an item, or the end of the pattern. -/
structure Place where
  item : Nat
  form : Nat
  byte : Nat
  deriving DecidableEq, Repr

def entries (index : Nat) (item : Item) : List Place :=
  (List.range item.forms.length).map fun form => ⟨index, form, 0⟩

/-- The places that may come next before the item numbered `index`, the first of `items`. -/
def awaiting (index : Nat) : List Item → List Place
  | [] => [⟨index, 0, 0⟩]
  | .run :: rest => entries index .run ++ awaiting (index + 1) rest
  | item :: _ => entries index item

/-- Items with what may come next before and after them. -/
structure Node where
  forms : List Form
  after : List Place

def nodes (index : Nat) : List Item → List Node
  | [] => []
  | .run :: rest =>
    ⟨Item.run.forms, awaiting index (.run :: rest)⟩ :: nodes (index + 1) rest
  | item :: rest => ⟨item.forms, awaiting (index + 1) rest⟩ :: nodes (index + 1) rest

/-- The places after a place, if a byte fits there. -/
def follow (graph : Array Node) (b : UInt8) (p : Place) : List Place :=
  match graph[p.item]? with
  | none => []
  | some node =>
    match (node.forms.getD p.form []).drop p.byte with
    | [] => []
    | (low, high) :: more =>
      if low ≤ b && b ≤ high then
        if more.isEmpty then node.after else [⟨p.item, p.form, p.byte + 1⟩]
      else []

def next (graph : Array Node) (state : List Place) (b : UInt8) : List Place :=
  (state.flatMap (follow graph b)).eraseDups

/-- Bytes between which no form of a graph makes a difference. -/
def samples (graph : Array Node) : List UInt8 :=
  let bounds := graph.toList.flatMap fun node =>
    node.forms.flatMap fun form => form.flatMap fun range => [range.1, range.2 + 1]
  (0 :: bounds).eraseDups

/-- Whether the states that are reached from those `waiting` number more than a limit, together
with those in `seen`; at most `fuel` states are looked at. -/
def exceeds (graph : Array Node) (bytes : List UInt8) (limit : Nat) :
    Nat → List (List Place) → Nat → List (List Place) → Bool
  | 0, _, _, _ => false
  | _ + 1, _, _, [] => false
  | fuel + 1, seen, count, state :: waiting =>
    let fresh := bytes.foldl (fun found b =>
      let reached := next graph state b
      if reached.isEmpty || seen.contains reached || found.contains reached then found
      else reached :: found) []
    let count := count + fresh.length
    if limit < count then true
    else exceeds graph bytes limit fuel (fresh ++ seen) count (fresh ++ waiting)

def stateLimit : Nat := 1000

def isTooLarge (p : Pattern) : Bool :=
  let graph := (nodes 0 p).toArray
  let initial := (awaiting 0 p).eraseDups
  exceeds graph (samples graph) stateLimit (stateLimit + 1) [initial] 1 [initial]

end RecordSearch.Pattern
