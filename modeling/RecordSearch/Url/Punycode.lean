import RecordSearch.Text.Letter

/-!
Labels of host names in ASCII.

A label with other characters is written by listing its ASCII characters and then, in the order of
their codes, how far on each of the others stands.  The distances are numbers in base 36 of varying
length, whose digits are adjusted to the distances seen so far.
-/

namespace RecordSearch.Url.Punycode

def digitChar (d : Nat) : Char :=
  if d < 26 then Char.ofNat (0x61 + d) else Char.ofNat (0x30 + d - 26)

def digitValue? (c : Char) : Option Nat :=
  if 'a' ≤ c && c ≤ 'z' then some (c.toNat - 0x61)
  else if 'A' ≤ c && c ≤ 'Z' then some (c.toNat - 0x41)
  else if '0' ≤ c && c ≤ '9' then some (c.toNat - 0x30 + 26)
  else none

/-- The least digit that does not end a number at a place. -/
def threshold (place bias : Nat) : Nat :=
  if place ≤ bias then 1 else if bias + 26 ≤ place then 26 else place - bias

def shrink (delta place : Nat) : Nat × Nat :=
  if 455 < delta then shrink (delta / 35) (place + 36) else (delta, place)
termination_by delta
decreasing_by exact Nat.div_lt_self (by omega) (by omega)

/-- The bias after a distance, when `count` characters are placed. -/
def adapt (delta count : Nat) (isFirst : Bool) : Nat :=
  let halved := if isFirst then delta / 700 else delta / 2
  let shrunk := shrink (halved + halved / count) 0
  shrunk.2 + 36 * shrunk.1 / (shrunk.1 + 38)

def digits (bias place q : Nat) : List Char :=
  let t := threshold place bias
  if h : q < t then [digitChar q]
  else digitChar (t + (q - t) % (36 - t)) :: digits bias (place + 36) ((q - t) / (36 - t))
termination_by q
decreasing_by
  have positive : 1 ≤ threshold place bias := by unfold threshold; split <;> (try split) <;> omega
  have := Nat.div_le_self (q - threshold place bias) (36 - threshold place bias)
  simp only [t] at h
  omega

structure Writing where
  out : List Char
  delta : Nat
  bias : Nat
  placed : Nat

/-- One character of the label, while those with the code `code` are placed. -/
def Writing.step (basic code : Nat) (w : Writing) (c : Char) : Writing :=
  if c.toNat < code then { w with delta := w.delta + 1 }
  else if c.toNat = code then
    ⟨w.out ++ digits w.bias 36 w.delta, 0, adapt w.delta (w.placed + 1) (w.placed == basic),
      w.placed + 1⟩
  else w

/-- Places the characters with the given codes, which ascend from `code` on. -/
def Writing.codes (label : List Char) (basic : Nat) : List Nat → Nat → Writing → Writing
  | [], _, w => w
  | next :: rest, code, w =>
    let moved := { w with delta := w.delta + (next - code) * (w.placed + 1) }
    let w := label.foldl (Writing.step basic next) moved
    Writing.codes label basic rest (next + 1) { w with delta := w.delta + 1 }

/-- A label in ASCII, without the mark in front. -/
def encode (label : List Char) : List Char :=
  let basic := label.filter fun c => c.toNat < 0x80
  let codes := ((label.filter fun c => 0x80 ≤ c.toNat).map Char.toNat).eraseDups.mergeSort
  let start := if basic.isEmpty then [] else basic ++ ['-']
  (Writing.codes label basic.length codes 0x80 ⟨start, 0, 72, basic.length⟩).out

def distance (bias place weight sum : Nat) : List Char → Option (Nat × List Char)
  | [] => none
  | c :: rest =>
    match digitValue? c with
    | none => none
    | some d =>
      let t := threshold place bias
      let sum := sum + d * weight
      if d < t then some (sum, rest) else distance bias (place + 36) (weight * (36 - t)) sum rest

/-- Places the characters that digits describe; every distance takes one digit at least. -/
def placeAll : Nat → List Char → Nat → Nat → Nat → List Char → Option (List Char)
  | 0, _, _, _, _, _ => none
  | _ + 1, label, _, _, _, [] => some label
  | fuel + 1, label, code, index, bias, s => do
    let (moved, rest) ← distance bias 36 1 index s
    let count := label.length + 1
    let code := code + moved / count
    let place := moved % count
    if 0x10FFFF < code then none
    else
      placeAll fuel (label.take place ++ Char.ofNat code :: label.drop place) code (place + 1)
        (adapt (moved - index) count (index == 0)) rest

def decode? (s : List Char) : Option (List Char) :=
  let tail := (s.reverse.takeWhile (· != '-')).reverse
  let basic := s.take (s.length - tail.length - 1)
  placeAll (tail.length + 1) basic 0x80 0 72 tail

end RecordSearch.Url.Punycode
