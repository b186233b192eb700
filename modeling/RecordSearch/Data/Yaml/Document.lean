import RecordSearch.Data.Yaml.Scalar

/-!
YAML documents.

Blocks are told by their columns: the entries of a record and the items of a list stand in one
column, which is greater than that of what they belong to.  Only the items of a list that is the
value of an entry may stand in the column of its key.  `Yaml.read` reads the one document of a text.
-/

namespace RecordSearch.Yaml

/-- A place in a text, and the nodes that were named before it. -/
structure State where
  rest : List Char
  column : Nat := 0
  named : List (String × Tree) := []

/-- Reads a text from a place on. -/
abbrev Reading := StateT State Option

def columnAfter (column : Nat) : List Char → Nat
  | [] => column
  | '\n' :: rest => columnAfter 0 rest
  | _ :: rest => columnAfter (column + 1) rest

namespace Reading

def look : Reading (List Char) := return (← get).rest

def column : Reading Nat := return (← get).column

def moveTo (rest : List Char) : Reading Unit :=
  modify fun s =>
    { s with
      rest := rest
      column := columnAfter s.column (s.rest.take (s.rest.length - rest.length)) }

def moveBy (count : Nat) : Reading Unit := do moveTo ((← look).drop count)

def atEnd : Reading Bool := do
  let s ← get
  return s.rest.isEmpty || (s.column = 0 && isMarker s.rest)

end Reading

open Reading

/-- What follows blanks, comments and line ends, and whether a line was left. Tabulators count as
blanks where `tabs` says so, and in brackets; elsewhere they must not indent a line. -/
def skipFrom (inBrackets comment tabs left : Bool) : List Char → List Char × Bool
  | [] => ([], left)
  | c :: rest =>
    if c = '\n' then skipFrom inBrackets false inBrackets true rest
    else if comment || c = ' ' || (tabs && c = '\t') then
      skipFrom inBrackets comment tabs left rest
    else if c = '#' then skipFrom inBrackets true tabs left rest
    else (c :: rest, left)

def skip (inBrackets tabs : Bool) : Reading Bool := do
  let (rest, left) := skipFrom inBrackets false (inBrackets || tabs) false (← look)
  moveTo rest
  return left

def scalar (inBrackets : Bool) (indent : Nat) : Reading Tree := do
  let s ← look
  match s with
  | '\'' :: rest =>
    let (text, rest) ← quoted '\'' [] (.gaps []) (rest.length + 1) rest
    moveTo rest
    return .text (String.ofList text)
  | '"' :: rest =>
    let (text, rest) ← quoted '"' [] (.gaps []) (rest.length + 1) rest
    moveTo rest
    return .text (String.ofList text)
  | s =>
    if startsPlain inBrackets s then
      let (text, rest) ← plain inBrackets indent s
      moveTo rest
      return .plain (String.ofList text)
    else failure

/-- Passes the colon of a key, if there is one in the line that the key began. -/
def colon (inBrackets : Bool) (key : List Char) : Reading Bool := do
  let s ← look
  let read := key.take (key.length - s.length)
  match s.dropWhile isGap with
  | ':' :: rest =>
    if !read.contains '\n' && (inBrackets || atGap rest) then
      moveTo rest
      return true
    else return false
  | _ => return false

def nameChars (s : List Char) : List Char :=
  s.takeWhile fun c =>
    Text.isAsciiLetter c || Text.isAsciiDigit c || c == '_' || c == '-'

def anchorName : Reading String := do
  let name := nameChars ((← look).drop 1)
  if name.isEmpty then failure
  moveBy (name.length + 1)
  let s ← look
  if atGap s || (s.head?.map fun c => isBracket c || c == ':').getD false then
    return String.ofList name
  else failure

def remember (name : String) (t : Tree) : Reading Tree := do
  modify fun s => { s with named := (name, t) :: s.named }
  return t

def nodeNamed (name : String) : Reading Tree := do
  (((← get).named.lookup name : Option Tree) : Reading Tree)

def tagText : Reading (List Char) := do
  let tag := (← look).takeWhile fun c => !(isGap c || c == '\n' || isBracket c)
  moveBy tag.length
  return tag

/-- A node under a tag: a plain scalar is a text if the tag says so. -/
def tagged (tag : List Char) : Tree → Tree
  | .plain s => if tag = "!!str".toList || tag = ['!'] then .text s else .plain s
  | t => t

mutual

/-- A node in brackets, or a scalar between them. -/
def inner : Nat → Reading Tree
  | 0 => failure
  | fuel + 1 => do
    let _ ← skip true true
    if ← atEnd then failure
    match ← look with
    | '[' :: rest => moveTo rest; innerItems [] fuel
    | '&' :: _ =>
      let name ← anchorName
      remember name (← inner fuel)
    | '*' :: _ => nodeNamed (← anchorName)
    | '!' :: _ =>
      let tag ← tagText
      return tagged tag (← inner fuel)
    | c :: rest =>
      if c = Char.ofNat 0x7B then
        moveTo rest
        innerEntries [] fuel
      else scalar true 0
    | [] => failure

def innerValue : Nat → Reading Tree
  | 0 => failure
  | fuel + 1 => do
    let _ ← skip true true
    match (← look).head? with
    | none => failure
    | some c =>
      if [',', ']', Char.ofNat 0x7D].contains c then return .plain ""
      else inner fuel

/-- The items of a list in brackets; an item with a colon is a record of one entry. -/
def innerItems (done : List Tree) : Nat → Reading Tree
  | 0 => failure
  | fuel + 1 => do
    let _ ← skip true true
    match ← look with
    | ']' :: rest => moveTo rest; return .list done.reverse
    | s =>
      let t ← inner fuel
      let t ←
        if ← colon true s then
          let value ← innerValue fuel
          pure (Tree.record [(t.asText?, value)])
        else pure t
      let _ ← skip true true
      match ← look with
      | ',' :: rest => moveTo rest; innerItems (t :: done) fuel
      | ']' :: rest => moveTo rest; return .list (t :: done).reverse
      | _ => failure

def innerEntries (done : List (Option String × Tree)) : Nat → Reading Tree
  | 0 => failure
  | fuel + 1 => do
    let _ ← skip true true
    match ← look with
    | [] => failure
    | c :: rest =>
      if c = Char.ofNat 0x7D then
        moveTo rest
        return .record done.reverse
      else
        let key ← inner fuel
        let value ← if ← colon true (c :: rest) then innerValue fuel else pure (.plain "")
        let done := (key.asText?, value) :: done
        let _ ← skip true true
        match ← look with
        | [] => failure
        | c :: rest =>
          moveTo rest
          if c = ',' then innerEntries done fuel
          else if c = Char.ofNat 0x7D then return .record done.reverse
          else failure

end

def isDash : List Char → Bool
  | '-' :: rest => atGap rest
  | _ => false

mutual

/-- A node of which all lines are indented by `least` at least. With `asValue` it is the value of an
entry, so that the items of a list may stand one column before; with `fresh` nothing but items of
lists stands before it in its line, so that it may have keys. -/
def node (least : Nat) (asValue fresh : Bool) : Nat → Reading Tree
  | 0 => failure
  | fuel + 1 => do
    let left ← skip false (!fresh)
    let fresh := fresh || left
    let column ← column
    let s ← look
    if ← atEnd then return .plain ""
    if column < least then
      if asValue && fresh && isDash s && column + 1 = least then listItems column [] fuel
      else return .plain ""
    else if isDash s then
      if fresh then listItems column [] fuel else failure
    else
      match s with
      | '|' :: rest =>
        let (text, rest) ← block least false rest
        moveTo rest
        return .text (String.ofList text)
      | '>' :: rest =>
        let (text, rest) ← block least true rest
        moveTo rest
        return .text (String.ofList text)
      | '&' :: _ =>
        let name ← anchorName
        remember name (← node least asValue fresh fuel)
      | '*' :: _ =>
        let t ← nodeNamed (← anchorName)
        return t
      | '!' :: _ =>
        let tag ← tagText
        return tagged tag (← node least asValue fresh fuel)
      | c :: _ =>
        if c = '[' || c = Char.ofNat 0x7B then
          let t ← inner fuel
          if ← colon false s then failure
          return t
        else
          let t ← scalar false least
          if fresh then
            if ← colon false s then mapEntries column [] t.asText? fuel else return t
          else return t
      | [] => failure

def listItems (listColumn : Nat) (done : List Tree) : Nat → Reading Tree
  | 0 => failure
  | fuel + 1 => do
    moveBy 1
    let t ← node (listColumn + 1) false true fuel
    let done := t :: done
    let _ ← skip false true
    if !(← atEnd) && (← column) = listColumn && isDash (← look) then listItems listColumn done fuel
    else return .list done.reverse

def mapEntries (mapColumn : Nat) (done : List (Option String × Tree)) (key : Option String) :
    Nat → Reading Tree
  | 0 => failure
  | fuel + 1 => do
    let t ← node (mapColumn + 1) true false fuel
    let done := (key, t) :: done
    let _ ← skip false true
    if (← atEnd) || (← column) < mapColumn then return .record done.reverse
    else if (← column) = mapColumn then
      let s ← look
      let key ← scalar false (mapColumn + 1)
      if ← colon false s then mapEntries mapColumn done key.asText? fuel else failure
    else failure

end

def isAllowed (c : Char) : Bool :=
  let n := c.toNat
  n == 0x09 || n == 0x0A || n == 0x0D || (0x20 ≤ n && n ≤ 0x7E) || n == 0x85 ||
    (0xA0 ≤ n && n ≤ 0xFFFD && n != 0xFEFF) || 0x10000 ≤ n

def withLineFeeds : List Char → List Char
  | '\r' :: '\n' :: rest => '\n' :: withLineFeeds rest
  | '\r' :: rest => '\n' :: withLineFeeds rest
  | c :: rest => (if c.toNat = 0x85 then '\n' else c) :: withLineFeeds rest
  | [] => []

/-- Passes directives and the marker of a document, and tells whether there is one. A document that
has directives begins with a marker. -/
def directives : Nat → Bool → Reading Bool
  | 0, _ => failure
  | fuel + 1, found => do
    let _ ← skip false false
    let s ← look
    if (← column) = 0 && s.head? == some '%' then
      moveTo (s.dropWhile (· != '\n'))
      directives fuel true
    else if (← column) = 0 && isMarker s && s.head? == some '-' then
      moveBy 3
      return true
    else if found then failure
    else return false

def document (fuel : Nat) : Reading Tree := do
  let marked ← directives fuel false
  let t ← node 0 false (!marked) fuel
  let _ ← skip false true
  let s ← look
  if s.isEmpty then return t
  else if (← column) = 0 && isMarker s && s.head? == some '.' then
    moveBy 3
    let _ ← skip false true
    if (← look).isEmpty then return t else failure
  else failure

/-- The document of a text; an empty text is an empty plain scalar. -/
def read (s : String) : Option Tree :=
  let chars :=
    match s.toList with
    | c :: rest => if c.toNat = 0xFEFF then rest else c :: rest
    | [] => []
  if chars.all isAllowed then
    let text := withLineFeeds chars
    ((document (2 * text.length + 4)).run { rest := text }).map Prod.fst
  else none

end RecordSearch.Yaml
