import RecordSearch.Text.Property.Unprintable
import RecordSearch.Url.Percent
import RecordSearch.Url.Punycode

/-!
Hosts: domain names and addresses, in their normal forms.
-/

namespace RecordSearch.Url

open RecordSearch.Text

inductive Fault where
  | emptyHost
  | invalidDomain
  | invalidPort
  | invalidIpv4
  | invalidIpv6
  | invalidCharacter
  | relative
  deriving DecidableEq, Repr

def Fault.message : Fault → String
  | emptyHost => "empty host"
  | invalidDomain => "invalid international domain name"
  | invalidPort => "invalid port number"
  | invalidIpv4 => "invalid IPv4 address"
  | invalidIpv6 => "invalid IPv6 address"
  | invalidCharacter => "invalid domain character"
  | relative => "relative URL without a base"

def splitOn (c : Char) (s : List Char) : List (List Char) :=
  (s.foldr (fun d parts =>
    if d = c then [] :: parts
    else
      match parts with
      | [] => [[d]]
      | part :: rest => (d :: part) :: rest) [[]])

def valueIn? (base : Nat) (s : List Char) : Option Nat :=
  s.foldl (fun sum c => do
    let sum ← sum
    let d ← hexValue? c
    if d < base then some (sum * base + d) else none) (some 0)

/-- A part of an IPv4 address: decimal, octal after `0` or hexadecimal after `0x`. -/
def ipv4Part? : List Char → Option Nat
  | [] => none
  | '0' :: 'x' :: rest => valueIn? 16 rest
  | '0' :: 'X' :: rest => valueIn? 16 rest
  | ['0'] => some 0
  | '0' :: rest => valueIn? 8 rest
  | s => valueIn? 10 s

/-- The parts of a name without an empty one at the end. -/
def hostParts (s : List Char) : List (List Char) :=
  let parts := splitOn '.' s
  if 1 < parts.length && parts.getLast? == some [] then parts.dropLast else parts

def endsInNumber (s : List Char) : Bool :=
  match (hostParts s).getLast? with
  | some last => (!last.isEmpty && last.all isAsciiDigit) || (ipv4Part? last).isSome
  | none => false

/-- The number of an IPv4 address whose last part stands for all bytes that are left. -/
def ipv4Number? (s : List Char) : Option Nat := do
  let parts := hostParts s
  if 4 < parts.length then none
  else
    let numbers ← parts.mapM ipv4Part?
    let last ← numbers.getLast?
    let first := numbers.dropLast
    if first.any (255 < ·) || Nat.pow 256 (4 - first.length) ≤ last then none
    else
      some ((first.zipIdx.map fun p => p.1 * Nat.pow 256 (3 - p.2)).foldr (· + ·) last)

def renderIpv4 (number : Nat) : List Char :=
  let part (place : Nat) := Nat.toDigits 10 (number / Nat.pow 256 place % 256)
  part 3 ++ '.' :: part 2 ++ '.' :: part 1 ++ '.' :: part 0

/-- The two pieces that an IPv4 address fills at the end of an IPv6 address. -/
def embeddedIpv4? (s : List Char) : Option (List Nat) := do
  let parts := splitOn '.' s
  if parts.length != 4 then none
  else
    let numbers ← parts.mapM fun part =>
      if part.isEmpty || (1 < part.length && part.head? == some '0') then none else valueIn? 10 part
    match numbers with
    | [a, b, c, d] =>
      if numbers.all (· ≤ 255) then some [a * 256 + b, c * 256 + d] else none
    | _ => none

/-- The pieces of one side of an IPv6 address; the last one of all may be an IPv4 address. -/
def ipv6Pieces? (isEnd : Bool) (s : List Char) : Option (List Nat) :=
  if s.isEmpty then some []
  else do
    let parts := splitOn ':' s
    let last ← parts.getLast?
    let others ← parts.dropLast.mapM piece?
    let lastPieces ←
      if isEnd && last.contains '.' then embeddedIpv4? last else (fun n => [n]) <$> piece? last
    return others ++ lastPieces
where
  piece? (part : List Char) : Option Nat :=
    if part.isEmpty || 4 < part.length then none else valueIn? 16 part

def splitDouble : List Char → List Char → Option (List Char × List Char)
  | before, ':' :: ':' :: rest => some (before.reverse, rest)
  | before, c :: rest => splitDouble (c :: before) rest
  | _, [] => none

def ipv6? (s : List Char) : Option (List Nat) :=
  match splitDouble [] s with
  | some (before, after) => do
    let head ← ipv6Pieces? false before
    let tail ← ipv6Pieces? true after
    let count := head.length + tail.length
    if 8 ≤ count then none else some (head ++ List.replicate (8 - count) 0 ++ tail)
  | none => do
    let pieces ← ipv6Pieces? true s
    if pieces.length = 8 then some pieces else none

/-- The place and length of the first longest run of zeros. -/
def longestZeros (pieces : List Nat) : Nat × Nat :=
  let step (state : Nat × Nat × Nat × Nat) (piece : Nat) : Nat × Nat × Nat × Nat :=
    let (index, run, start, best) := state
    if piece = 0 then
      if best < run + 1 then (index + 1, run + 1, index - run, run + 1)
      else (index + 1, run + 1, start, best)
    else (index + 1, 0, start, best)
  let final := pieces.foldl step (0, 0, 0, 0)
  (final.2.2.1, final.2.2.2)

def joinColons : List (List Char) → List Char
  | [] => []
  | [s] => s
  | s :: rest => s ++ ':' :: joinColons rest

/-- An IPv6 address in brackets, with its longest run of zeros left out. -/
def renderIpv6 (pieces : List Nat) : List Char :=
  let hex := pieces.map (Nat.toDigits 16)
  let (start, length) := longestZeros pieces
  let body :=
    if length < 2 then joinColons hex
    else joinColons (hex.take start) ++ "::".toList ++ joinColons (hex.drop (start + length))
  '[' :: (body ++ [']'])

def isForbidden (c : Char) : Bool :=
  c.toNat ≤ 0x20 || c.toNat == 0x7F ||
    ['%', '#', '/', ':', '<', '>', '?', '@', '[', '\\', ']', '^', '|'].contains c

def isIgnored (c : Char) : Bool :=
  [0xAD, 0x34F, 0x180B, 0x180C, 0x180D, 0x200B, 0x2060, 0x2064, 0xFEFF].contains c.toNat ||
    (0xFE00 ≤ c.toNat && c.toNat ≤ 0xFE0F)

def mapDomainChar (c : Char) : List Char :=
  if isIgnored c then []
  else if [0x3002, 0xFF0E, 0xFF61].contains c.toNat then ['.']
  else if 0xFF01 ≤ c.toNat && c.toNat ≤ 0xFF5E then lower (Char.ofNat (c.toNat - 0xFEE0))
  else lower c

/-- Whether a label needs an encoding and may have one. -/
def isInternational (label : List Char) : Bool :=
  label.any (0x80 ≤ ·.toNat) && !label.any (inRanges Property.unprintable)

/-- A label in ASCII. One that is encoded already has to be the encoding of a normal form. -/
def domainLabel (label : List Char) : Except Fault (List Char) :=
  if label.all (·.toNat < 0x80) then
    match label with
    | 'x' :: 'n' :: '-' :: '-' :: rest =>
      match Punycode.decode? rest with
      | some decoded =>
        if isInternational decoded && decoded.flatMap mapDomainChar = decoded then .ok label
        else .error .invalidDomain
      | none => .error .invalidDomain
    | _ => .ok label
  else if isInternational label then .ok ("xn--".toList ++ Punycode.encode label)
  else .error .invalidDomain

def joinDots : List (List Char) → List Char
  | [] => []
  | [s] => s
  | s :: rest => s ++ '.' :: joinDots rest

def domain (s : List Char) : Except Fault (List Char) := do
  let text := Utf8.decodeLossy (decodeBytes (Utf8.encode s))
  if text.contains Utf8.replacement then throw .invalidDomain
  let labels ← (splitOn '.' (text.flatMap mapDomainChar)).mapM domainLabel
  let name := joinDots labels
  if name.any isForbidden then throw .invalidDomain
  return name

/-- The host of a URL whose scheme has hosts of its own. -/
def specialHost (s : List Char) : Except Fault (List Char) :=
  match s with
  | '[' :: rest =>
    if rest.getLast? == some ']' then
      match ipv6? rest.dropLast with
      | some pieces => .ok (renderIpv6 pieces)
      | none => .error .invalidIpv6
    else .error .invalidIpv6
  | _ => do
    let name ← domain s
    if name.isEmpty then throw .emptyHost
    if endsInNumber name then
      match ipv4Number? name with
      | some number => return renderIpv4 number
      | none => throw .invalidIpv4
    return name

def opaqueHost (s : List Char) : Except Fault (List Char) :=
  match s with
  | '[' :: _ => specialHost s
  | _ =>
    if s.any fun c => ['\x00', '\t', '\n', '\r', ' ', '#', '/', ':', '<', '>', '?', '@', '[', '\\',
        ']', '^', '|'].contains c
    then .error .invalidCharacter
    else .ok (encode isControl s)

end RecordSearch.Url
