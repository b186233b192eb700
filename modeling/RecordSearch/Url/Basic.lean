import RecordSearch.Url.Host

/-!
URLs: reading a text and writing its normal form.

A URL of a scheme that the Web knows has a host, and its path begins with a slash; back slashes
count as slashes there.  `Url.parse` reads an absolute URL, and `Url.render` writes it.
-/

namespace RecordSearch

open RecordSearch.Text

structure Authority where
  /-- The user with the sign `@` behind, or nothing. -/
  userinfo : List Char := []
  host : List Char := []
  port : Option Nat := none
  deriving DecidableEq, Repr

structure Url where
  scheme : List Char
  authority : Option Authority := none
  path : List Char
  query : Option (List Char) := none
  fragment : Option (List Char) := none
  deriving DecidableEq, Repr

namespace Url

def Authority.render (a : Authority) : List Char :=
  a.userinfo ++ a.host ++
    match a.port with
    | some port => ':' :: Nat.toDigits 10 port
    | none => []

/-- The text of a URL. A path that looks like an authority is kept apart from the scheme. -/
def render (u : Url) : List Char :=
  u.scheme ++ ':' ::
    (match u.authority with
      | some a => "//".toList ++ Authority.render a
      | none => if ("//".toList).isPrefixOf u.path then "/.".toList else []) ++
    u.path ++
    (match u.query with
      | some q => '?' :: q
      | none => []) ++
    match u.fragment with
    | some f => '#' :: f
    | none => []

def text (u : Url) : String := String.ofList u.render

/-- How a scheme reads what follows it. -/
inductive Family where
  /-- Files, which may have a host. -/
  | file
  /-- Schemes with a host. -/
  | web
  | other
  deriving DecidableEq, Repr

def familyOf (scheme : List Char) : Family :=
  if scheme = "file".toList then .file
  else if [ "http", "https", "ws", "wss", "ftp"].any fun s => s.toList = scheme then .web
  else .other

def defaultPort? (scheme : List Char) : Option Nat :=
  if scheme = "http".toList ∨ scheme = "ws".toList then some 80
  else if scheme = "https".toList ∨ scheme = "wss".toList then some 443
  else if scheme = "ftp".toList then some 21
  else none

/-- A text without blanks and controls at its ends, and without line ends and tabs. -/
def cleaned (s : List Char) : List Char :=
  let outer (c : Char) : Bool := c.toNat ≤ 0x20
  let trimmed := (((s.dropWhile outer).reverse).dropWhile outer).reverse
  trimmed.filter fun c => c != '\t' && c != '\n' && c != '\r'

def isSchemeChar (c : Char) : Bool :=
  isAsciiLetter c || isAsciiDigit c || c == '+' || c == '-' || c == '.'

def scheme? (s : List Char) : Option (List Char × List Char) :=
  match s with
  | c :: _ =>
    if isAsciiLetter c then
      match s.dropWhile isSchemeChar with
      | ':' :: rest => some ((s.takeWhile isSchemeChar).map asciiLower, rest)
      | _ => none
    else none
  | [] => none

def isSlash (special : Bool) (c : Char) : Bool := c == '/' || (special && c == '\\')

def endsAuthority (special : Bool) (c : Char) : Bool :=
  isSlash special c || c == '?' || c == '#'

def endsPath (c : Char) : Bool := c == '?' || c == '#'

def segments (special : Bool) (s : List Char) : List (List Char) × List Char :=
  let path := s.takeWhile (!endsPath ·)
  let plain := path.map fun c => if isSlash special c then '/' else c
  (splitOn '/' plain, s.dropWhile (!endsPath ·))

/-- A segment with its encoded full stops written as such. -/
def plainDots : List Char → List Char
  | '%' :: '2' :: 'e' :: rest => '.' :: plainDots rest
  | '%' :: '2' :: 'E' :: rest => '.' :: plainDots rest
  | c :: rest => c :: plainDots rest
  | [] => []

def isSingleDot (segment : List Char) : Bool :=
  segment.length ≤ 3 && plainDots segment == ['.']

def isDoubleDot (segment : List Char) : Bool :=
  segment.length ≤ 6 && plainDots segment == ['.', '.']

def isDrive : List Char → Bool
  | [c, d] => isAsciiLetter c && (d == ':' || d == '|')
  | _ => false

/-- The segments above the last one; a drive has none above it. -/
def parent : List (List Char) → List (List Char)
  | [] => []
  | last :: above => if isDrive last then last :: above else above

/-- The segments of a path without its full stops, where `done` holds those that are complete, last
first. -/
def resolve (done : List (List Char)) : List (List Char) → List (List Char)
  | [] => ([] :: done).reverse
  | [last] =>
    if isDoubleDot last then ([] :: parent done).reverse
    else if isSingleDot last then ([] :: done).reverse
    else (encode inPathSet last :: done).reverse
  | segment :: rest =>
    if isDoubleDot segment then resolve (parent done) rest
    else if isSingleDot segment then resolve done rest
    else resolve (encode inPathSet segment :: done) rest

def joinSlashes (segments : List (List Char)) : List Char := segments.flatMap ('/' :: ·)

def startsInDrive (segments : List (List Char)) : Bool := (segments.head?.map isDrive).getD false

/-- A drive at the head of a path is written with a colon. -/
def withColon : List (List Char) → List (List Char)
  | [c, '|'] :: rest => (if isAsciiLetter c then [c, ':'] else [c, '|']) :: rest
  | segments => segments

/-- The path of a file has one slash at its head. -/
def filePath (segments : List (List Char)) : List Char :=
  '/' :: (joinSlashes (withColon segments)).dropWhile (· == '/')

def withTail (special : Bool) (u : Url) (s : List Char) : Url :=
  let beforeFragment := s.takeWhile (· != '#')
  let fragment :=
    match s.dropWhile (· != '#') with
    | _ :: rest => some (encode inFragmentSet rest)
    | [] => none
  let query :=
    match beforeFragment with
    | _ :: rest => some (encode (if special then inSpecialQuerySet else inQuerySet) rest)
    | [] => none
  { u with query := query, fragment := fragment }

/-- The user of an authority, and what follows the last sign `@` of it. -/
def userinfo (special : Bool) (s : List Char) : Except Fault (List Char × List Char) :=
  let area := s.takeWhile (!endsAuthority special ·)
  if area.contains '@' then
    let host := (area.reverse.takeWhile (· != '@')).reverse
    let user := area.take (area.length - host.length - 1)
    let rest := s.drop (user.length + 1)
    if user.isEmpty then
      match rest with
      | c :: _ => if endsAuthority special c then .error .emptyHost else .ok ([], rest)
      | [] => .ok ([], rest)
    else
      let name := encode inUserinfoSet (user.takeWhile (· != ':'))
      let password := encode inUserinfoSet ((user.dropWhile (· != ':')).drop 1)
      let secret := if password.isEmpty then [] else ':' :: password
      .ok (if name.isEmpty && secret.isEmpty then [] else name ++ secret ++ ['@'], rest)
  else .ok ([], s)

/-- The part of a text that is a host. A colon within brackets belongs to it. -/
def hostPart (special inBrackets : Bool) : List Char → List Char
  | [] => []
  | c :: rest =>
    if (c == ':' && !inBrackets) || endsAuthority special c then []
    else c :: hostPart special (if c = '[' then true else if c = ']' then false else inBrackets) rest

/-- A port other than that of the scheme, and what follows it. -/
def port (scheme s : List Char) : Except Fault (Option Nat × List Char) :=
  let digits := s.takeWhile isAsciiDigit
  let rest := s.dropWhile isAsciiDigit
  let number := (valueIn? 10 digits).getD 0
  let ended := (rest.head?.map (endsAuthority true)).getD true
  if 65535 < number || !ended then .error .invalidPort
  else if digits.isEmpty || defaultPort? scheme = some number then .ok (none, rest)
  else .ok (some number, rest)

def pathAfterAuthority (special : Bool) (s : List Char) : List Char × List Char :=
  match s with
  | [] => (if special then ['/'] else [], [])
  | c :: rest =>
    if !special && endsPath c then ([], s)
    else
      let (segments, tail) := segments special (if isSlash special c then rest else s)
      (joinSlashes (resolve [] segments), tail)

def afterSlashes (scheme : List Char) (special : Bool) (s : List Char) : Except Fault Url := do
  let (user, s) ← userinfo special s
  let name := hostPart special false s
  let rest := s.drop name.length
  if special && name.isEmpty then throw .emptyHost
  let host ← if special then specialHost name else opaqueHost name
  if host.isEmpty && (rest.head? == some ':' || !user.isEmpty) then throw .emptyHost
  let (port, rest) ←
    match rest with
    | ':' :: rest => port scheme rest
    | _ => pure (none, rest)
  let (path, tail) := pathAfterAuthority special rest
  return withTail special
    { scheme := scheme, authority := some ⟨user, host, port⟩, path := path } tail

/-- A file of a host, which a path that begins with a drive does without. -/
def fileOf (host s : List Char) : Url :=
  let (raw, tail) := segments true s
  let path := resolve [] raw
  withTail true
    { scheme := "file".toList
      authority := some { host := if startsInDrive path then [] else host }
      path := filePath path } tail

/-- What follows two slashes in the URL of a file. A slash behind an empty host begins a segment of
its own, so that a drive behind it is like any other segment. -/
def afterFileSlashes (s : List Char) : Except Fault Url := do
  let name := s.takeWhile (!endsAuthority true ·)
  if name.isEmpty || isDrive name then return fileOf [] s
  else
    let host ← specialHost name
    let rest := s.drop name.length
    if host = "localhost".toList then return fileOf [] rest
    else
      match rest with
      | c :: path => return fileOf host (if isSlash true c then path else rest)
      | [] => return fileOf host []

def ofScheme (scheme s : List Char) : Except Fault Url :=
  match familyOf scheme with
  | .web => afterSlashes scheme true (s.dropWhile (isSlash true))
  | .file =>
    match s with
    | c :: d :: rest =>
      if isSlash true c then
        if isSlash true d then afterFileSlashes rest else .ok (fileOf [] (d :: rest))
      else .ok (fileOf [] s)
    | [c] => .ok (fileOf [] (if isSlash true c then [] else [c]))
    | [] => .ok (fileOf [] [])
  | .other =>
    match s with
    | '/' :: '/' :: rest => afterSlashes scheme false rest
    | '/' :: rest =>
      let (segments, tail) := segments false rest
      .ok (withTail false { scheme := scheme, path := joinSlashes (resolve [] segments) } tail)
    | _ =>
      let path := s.takeWhile (!endsPath ·)
      .ok (withTail false { scheme := scheme, path := encode isControl path }
        (s.dropWhile (!endsPath ·)))

def parse (s : String) : Except Fault Url :=
  match scheme? (cleaned s.toList) with
  | some (scheme, rest) => ofScheme scheme rest
  | none => .error .relative

/-- Whether the path is a list of segments. -/
def isHierarchical (u : Url) : Bool := u.authority.isSome || u.path.head? == some '/'

/-- The name of the file of a URL without a foreign host, as bytes. A drive ends with a slash. -/
def filePath? (u : Url) : Option (List UInt8) :=
  let host := (u.authority.map Authority.host).getD []
  if u.isHierarchical && (host.isEmpty || host = "localhost".toList) then
    let bytes := decodeBytes (Utf8.encode u.path)
    match bytes.reverse with
    | b :: a :: _ :: _ =>
      if isDrive [Char.ofNat a.toNat, Char.ofNat b.toNat] then some (bytes ++ [0x2F])
      else some bytes
    | _ => some bytes
  else none

end Url

end RecordSearch
