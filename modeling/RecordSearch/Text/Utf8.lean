/-!
UTF-8: characters to bytes and back.

`encode` writes a text, `decode` reads one and names the first place where the bytes are no text,
and `decodeLossy` reads any bytes, with U+FFFD for each maximal piece that is no character.
-/

namespace RecordSearch.Text.Utf8

def encode (s : List Char) : List UInt8 := s.flatMap String.utf8EncodeChar

def bytes (s : String) : List UInt8 := encode s.toList

inductive Fault where
  /-- `length` bytes from `index` on cannot be the start of a character. -/
  | invalid (length index : Nat)
  /-- The sequence ends within the character that begins at `index`. -/
  | incomplete (index : Nat)
  deriving DecidableEq, Repr

def Fault.message : Fault → String
  | .invalid length index =>
    "invalid utf-8 sequence of " ++ toString length ++ " bytes from index " ++ toString index
  | .incomplete index => "incomplete utf-8 byte sequence from index " ++ toString index

/-- A character of which `seen` bytes are read: their payload so far, how many bytes are still
due, and the range the next one must lie in. -/
structure Pending where
  due : Nat
  low : UInt8
  high : UInt8
  payload : Nat
  seen : Nat

inductive Step where
  | done (c : Char)
  | more (p : Pending)
  | refused

def first (b : UInt8) : Step :=
  if b < 0x80 then .done (Char.ofNat b.toNat)
  else if b < 0xC2 then .refused
  else if b < 0xE0 then .more ⟨1, 0x80, 0xBF, b.toNat % 32, 1⟩
  else if b == 0xE0 then .more ⟨2, 0xA0, 0xBF, 0, 1⟩
  else if b == 0xED then .more ⟨2, 0x80, 0x9F, 13, 1⟩
  else if b < 0xF0 then .more ⟨2, 0x80, 0xBF, b.toNat % 16, 1⟩
  else if b == 0xF0 then .more ⟨3, 0x90, 0xBF, 0, 1⟩
  else if b < 0xF4 then .more ⟨3, 0x80, 0xBF, b.toNat % 8, 1⟩
  else if b == 0xF4 then .more ⟨3, 0x80, 0x8F, 4, 1⟩
  else .refused

def Pending.next (p : Pending) (b : UInt8) : Step :=
  if p.low ≤ b && b ≤ p.high then
    let payload := p.payload * 64 + b.toNat % 64
    if p.due ≤ 1 then .done (Char.ofNat payload)
    else .more ⟨p.due - 1, 0x80, 0xBF, payload, p.seen + 1⟩
  else .refused

/-- Decode from byte `index` on; `done` holds the characters read so far, last first. -/
def decodeFrom (index : Nat) (pending : Option Pending) (done : List Char) :
    List UInt8 → Except Fault (List Char)
  | [] =>
    match pending with
    | none => .ok done.reverse
    | some p => .error (.incomplete (index - p.seen))
  | b :: rest =>
    match pending with
    | none =>
      match first b with
      | .done c => decodeFrom (index + 1) none (c :: done) rest
      | .more p => decodeFrom (index + 1) (some p) done rest
      | .refused => .error (.invalid 1 index)
    | some p =>
      match p.next b with
      | .done c => decodeFrom (index + 1) none (c :: done) rest
      | .more q => decodeFrom (index + 1) (some q) done rest
      | .refused => .error (.invalid p.seen (index - p.seen))

def decode (bytes : List UInt8) : Except Fault (List Char) := decodeFrom 0 none [] bytes

def replacement : Char := '\uFFFD'

def decodeLossyFrom (pending : Option Pending) (done : List Char) : List UInt8 → List Char
  | [] =>
    match pending with
    | none => done.reverse
    | some _ => (replacement :: done).reverse
  | b :: rest =>
    let afresh (done : List Char) : Option Pending × List Char :=
      match first b with
      | .done c => (none, c :: done)
      | .more p => (some p, done)
      | .refused => (none, replacement :: done)
    let next : Option Pending × List Char :=
      match pending with
      | none => afresh done
      | some p =>
        match p.next b with
        | .done c => (none, c :: done)
        | .more q => (some q, done)
        | .refused => afresh (replacement :: done)
    decodeLossyFrom next.1 next.2 rest

/-- The text of a byte sequence, with a replacement character for each piece that is none. -/
def decodeLossy (bytes : List UInt8) : List Char := decodeLossyFrom none [] bytes

def bytesLt : List UInt8 → List UInt8 → Bool
  | [], [] => false
  | [], _ :: _ => true
  | _ :: _, [] => false
  | a :: as, b :: bs => a < b || (a == b && bytesLt as bs)

def lt (s t : String) : Bool := bytesLt (bytes s) (bytes t)

def size (s : String) : Nat := s.utf8ByteSize

end RecordSearch.Text.Utf8
