import RecordSearch.Text.Letter
import RecordSearch.Text.Utf8

/-!
Percent encoding.
-/

namespace RecordSearch.Url

open RecordSearch.Text

def hexDigit (n : Nat) : Char := if n < 10 then Char.ofNat (0x30 + n) else Char.ofNat (0x37 + n)

def hexValue? (c : Char) : Option Nat :=
  if isAsciiDigit c then some (c.toNat - 0x30)
  else if 'a' ≤ c && c ≤ 'f' then some (c.toNat - 0x57)
  else if 'A' ≤ c && c ≤ 'F' then some (c.toNat - 0x37)
  else none

def encodeByte (b : UInt8) : List Char :=
  ['%', hexDigit (b.toNat / 16), hexDigit (b.toNat % 16)]

/-- Controls and characters beyond ASCII are encoded everywhere. -/
def isControl (c : Char) : Bool := c.toNat < 0x20 || 0x7E < c.toNat

def inQuerySet (c : Char) : Bool :=
  isControl c || c == ' ' || c == '"' || c == '#' || c == '<' || c == '>'

def inSpecialQuerySet (c : Char) : Bool := inQuerySet c || c == '\''

def inFragmentSet (c : Char) : Bool :=
  isControl c || c == ' ' || c == '"' || c == '<' || c == '>' || c.toNat == 0x60

def inPathSet (c : Char) : Bool :=
  inQuerySet c || c == '?' || c.toNat == 0x60 || c.toNat == 0x7B || c.toNat == 0x7D

def inUserinfoSet (c : Char) : Bool :=
  inPathSet c || ['/', ':', ';', '=', '@', '[', '\\', ']', '^', '|'].contains c

def encode (set : Char → Bool) (s : List Char) : List Char :=
  s.flatMap fun c => if set c then (String.utf8EncodeChar c).flatMap encodeByte else [c]

/-- The bytes of a text in which two hexadecimal digits after `%` stand for a byte; those bytes
for which `kept` holds stay encoded. -/
def decodeBytesExcept (kept : UInt8 → Bool) : List UInt8 → List UInt8
  | 0x25 :: h :: l :: rest =>
    match hexValue? (Char.ofNat h.toNat), hexValue? (Char.ofNat l.toNat) with
    | some high, some low =>
      let b := UInt8.ofNat (high * 16 + low)
      if kept b then 0x25 :: h :: l :: decodeBytesExcept kept rest
      else b :: decodeBytesExcept kept rest
    | _, _ => 0x25 :: decodeBytesExcept kept (h :: l :: rest)
  | b :: rest => b :: decodeBytesExcept kept rest
  | [] => []

def decodeBytes : List UInt8 → List UInt8 := decodeBytesExcept fun _ => false

end RecordSearch.Url
