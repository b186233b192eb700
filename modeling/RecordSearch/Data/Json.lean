import RecordSearch.Data.Tree
import RecordSearch.Text.Utf8

/-!
JSON texts.

`Json.read` reads a whole text, with at most `depth` lists and records within one another.
Scalars without a value, such as half of a surrogate pair or a number that is too large, are
marked; `Json.isSound` tells whether a document is free of them.
-/

namespace RecordSearch.Json

open RecordSearch.Text

abbrev Bytes := List UInt8

def skip (s : Bytes) : Bytes :=
  s.dropWhile fun b => b == 0x20 || b == 0x09 || b == 0x0A || b == 0x0D

def isDigit (b : UInt8) : Bool := 0x30 ≤ b && b ≤ 0x39

def hexValue? (b : UInt8) : Option Nat :=
  if isDigit b then some (b.toNat - 0x30)
  else if 0x61 ≤ b && b ≤ 0x66 then some (b.toNat - 0x57)
  else if 0x41 ≤ b && b ≤ 0x46 then some (b.toNat - 0x37)
  else none

def unit? : Bytes → Option (Nat × Bytes)
  | a :: b :: c :: d :: rest => do
    let a ← hexValue? a
    let b ← hexValue? b
    let c ← hexValue? c
    let d ← hexValue? d
    return (((a * 16 + b) * 16 + c) * 16 + d, rest)
  | _ => none

def escape? : UInt8 → Option UInt8
  | 0x22 => some 0x22
  | 0x5C => some 0x5C
  | 0x2F => some 0x2F
  | 0x62 => some 0x08
  | 0x66 => some 0x0C
  | 0x6E => some 0x0A
  | 0x72 => some 0x0D
  | 0x74 => some 0x09
  | _ => none

/-- The text behind an opening quote: its bytes, last first, or nothing if it has no value. -/
def body (done : Bytes) (sound : Bool) : Nat → Bytes → Option (Option Bytes × Bytes)
  | 0, _ => none
  | _ + 1, [] => none
  | _ + 1, 0x22 :: rest => some (if sound then some done else none, rest)
  | fuel + 1, 0x5C :: 0x75 :: rest =>
    match unit? rest with
    | none => none
    | some (unit, rest) =>
      if 0xD800 ≤ unit && unit < 0xDC00 then
        match rest with
        | 0x5C :: 0x75 :: more =>
          match unit? more with
          | none => none
          | some (low, more) =>
            if 0xDC00 ≤ low && low < 0xE000 then
              let code := 0x10000 + (unit - 0xD800) * 0x400 + (low - 0xDC00)
              body ((String.utf8EncodeChar (Char.ofNat code)).reverse ++ done) sound fuel more
            else body done false fuel rest
        | _ => body done false fuel rest
      else if 0xDC00 ≤ unit && unit < 0xE000 then body done false fuel rest
      else body ((String.utf8EncodeChar (Char.ofNat unit)).reverse ++ done) sound fuel rest
  | fuel + 1, 0x5C :: c :: rest =>
    match escape? c with
    | some b => body (b :: done) sound fuel rest
    | none => none
  | fuel + 1, b :: rest => if b < 0x20 then none else body (b :: done) sound fuel rest

def textBody (s : Bytes) : Option (Option String × Bytes) :=
  (body [] true (s.length + 1) s).map fun r =>
    (r.1.bind fun bytes =>
      match Utf8.decode bytes.reverse with
      | .ok chars => some (String.ofList chars)
      | .error _ => none, r.2)

def digitsValue (s : Bytes) : Nat := s.foldl (fun n b => n * 10 + (b.toNat - 0x30)) 0

/-- Whether a number with the given digits and power of ten is too large for a double. -/
def overflows (digits : Nat) (exponent : Int) : Bool :=
  if digits = 0 then false
  else
    let magnitude : Int := (Nat.toDigits 10 digits).length + exponent
    if 400 < magnitude then true
    else if magnitude < 300 then false
    else
      let limit := Nat.pow 2 1024 - Nat.pow 2 970
      if 0 ≤ exponent then limit ≤ digits * Nat.pow 10 exponent.toNat
      else limit * Nat.pow 10 (-exponent).toNat ≤ digits

def number (start : Bytes) : Option (Tree × Bytes) :=
  let (negative, s) :=
    match start with
    | 0x2D :: rest => (true, rest)
    | s => (false, s)
  let whole := s.takeWhile isDigit
  let rest := s.dropWhile isDigit
  if whole.isEmpty || (1 < whole.length && whole.head? == some 0x30) then none
  else
    let fractionPart : Option (Bytes × Bytes) :=
      match rest with
      | 0x2E :: more =>
        let digits := more.takeWhile isDigit
        if digits.isEmpty then none else some (digits, more.dropWhile isDigit)
      | _ => some ([], rest)
    match fractionPart with
    | none => none
    | some (fraction, rest) =>
      let exponentPart : Option (Option Int × Bytes) :=
        match rest with
        | c :: more =>
          if c == 0x65 || c == 0x45 then
            let (down, more) :=
              match more with
              | 0x2D :: more => (true, more)
              | 0x2B :: more => (false, more)
              | more => (false, more)
            let digits := more.takeWhile isDigit
            if digits.isEmpty then none
            else
              let value : Int := digitsValue digits
              some (some (if down then -value else value), more.dropWhile isDigit)
          else some (none, rest)
        | [] => some (none, rest)
      match exponentPart with
      | none => none
      | some (exponent, rest) =>
        let digits := digitsValue (whole ++ fraction)
        let written := start.take (start.length - rest.length)
        if overflows digits (exponent.getD 0 - fraction.length) then some (.broken, rest)
        else if fraction.isEmpty && exponent.isNone then
          some (.int (if negative then -(digits : Int) else digits), rest)
        else some (.real (String.ofList (written.map fun b => Char.ofNat b.toNat)), rest)

def word (name : String) (t : Tree) (s : Bytes) : Option (Tree × Bytes) :=
  let bytes := Utf8.bytes name
  if bytes.isPrefixOf s then some (t, s.drop bytes.length) else none

mutual

/-- A value, with at most `depth` lists and records within one another. -/
def value (depth : Nat) : Nat → Bytes → Option (Tree × Bytes)
  | 0, _ => none
  | fuel + 1, s =>
    match skip s with
    | 0x22 :: rest =>
      (textBody rest).map fun r => ((r.1.map Tree.text).getD .broken, r.2)
    | 0x5B :: rest =>
      if depth = 0 then none
      else
        match skip rest with
        | 0x5D :: rest => some (.list [], rest)
        | rest => items (depth - 1) [] fuel rest
    | 0x7B :: rest =>
      if depth = 0 then none
      else
        match skip rest with
        | 0x7D :: rest => some (.record [], rest)
        | rest => entries (depth - 1) [] fuel rest
    | 0x6E :: rest => word "null" .null (0x6E :: rest)
    | 0x74 :: rest => word "true" (.bool true) (0x74 :: rest)
    | 0x66 :: rest => word "false" (.bool false) (0x66 :: rest)
    | s => number s

/-- The items of a list, of which those read are in `done`, last first. -/
def items (depth : Nat) (done : List Tree) : Nat → Bytes → Option (Tree × Bytes)
  | 0, _ => none
  | fuel + 1, s =>
    match value depth fuel s with
    | none => none
    | some (t, rest) =>
      match skip rest with
      | 0x2C :: rest => items depth (t :: done) fuel rest
      | 0x5D :: rest => some (.list (t :: done).reverse, rest)
      | _ => none

/-- The entries of a record, of which those read are in `done`, last first. -/
def entries (depth : Nat) (done : List (Option String × Tree)) :
    Nat → Bytes → Option (Tree × Bytes)
  | 0, _ => none
  | fuel + 1, s =>
    match skip s with
    | 0x22 :: rest =>
      match textBody rest with
      | none => none
      | some (key, rest) =>
        match skip rest with
        | 0x3A :: rest =>
          match value depth fuel rest with
          | none => none
          | some (t, rest) =>
            match skip rest with
            | 0x2C :: rest => entries depth ((key, t) :: done) fuel rest
            | 0x7D :: rest => some (.record ((key, t) :: done).reverse, rest)
            | _ => none
        | _ => none
    | _ => none

end

def read (depth : Nat) (s : Bytes) : Option Tree :=
  match value depth (2 * s.length + 2) s with
  | some (t, rest) => if (skip rest).isEmpty then some t else none
  | none => none

mutual

def isSound : Tree → Bool
  | .broken => false
  | .list items => areSound items
  | .record entries => entriesSound entries
  | _ => true

def areSound : List Tree → Bool
  | [] => true
  | t :: rest => isSound t && areSound rest

def entriesSound : List (Option String × Tree) → Bool
  | [] => true
  | (key, t) :: rest => key.isSome && isSound t && entriesSound rest

end

/-- Values may be nested this deep where a whole document is kept. -/
def depthLimit : Nat := 127

def readSound (s : Bytes) : Option Tree :=
  match read depthLimit s with
  | some t => if isSound t then some t else none
  | none => none

/-- The value of a key; the last one counts where a key occurs more than once. -/
def get? (key : String) : Tree → Option Tree
  | .record entries => (entries.reverse.find? fun e => e.1 == some key).map Prod.snd
  | _ => none

end RecordSearch.Json
