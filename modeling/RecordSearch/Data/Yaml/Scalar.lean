import RecordSearch.Data.Tree

/-!
The scalars of YAML: places in a text, and what is read at them.

Every reader gets the characters that follow a place, and returns what it has read with the
characters that follow then.
-/

namespace RecordSearch.Yaml

open RecordSearch.Text

def isGap (c : Char) : Bool := c == ' ' || c == '\t'

def atGap : List Char → Bool
  | [] => true
  | c :: _ => isGap c || c == '\n'

def isBracket (c : Char) : Bool :=
  [',', '[', ']', Char.ofNat 0x7B, Char.ofNat 0x7D].contains c

def isMarker : List Char → Bool
  | '-' :: '-' :: '-' :: rest => atGap rest
  | '.' :: '.' :: '.' :: rest => atGap rest
  | _ => false

/-- The line breaks between two lines of a scalar: one is a space, and of more the first is
dropped. -/
def fold (breaks : Nat) : List Char :=
  if breaks = 1 then [' '] else List.replicate (breaks - 1) '\n'

/-! Plain scalars -/

def startsPlain (inBrackets : Bool) : List Char → Bool
  | [] => false
  | c :: rest =>
    if c = '-' || (!inBrackets && (c = '?' || c = ':')) then !atGap rest
    else
      !(isGap c || c = '\n' || isBracket c ||
        ['?', ':', '#', '&', '*', '!', '|', '>', '\'', '"', '%', '@', Char.ofNat 0x60].contains c)

/-- The part of a plain scalar that stands in one line, last character first; `held` are the blanks
behind `done`. A colon before a bracket is an error. -/
def plainLine (inBrackets : Bool) (done held : List Char) :
    List Char → Option (List Char × List Char)
  | [] => some (done, [])
  | c :: rest =>
    if isGap c then plainLine inBrackets done (c :: held) rest
    else if c = '\n' then some (done, c :: rest)
    else if c = '#' && !held.isEmpty then some (done, c :: rest)
    else if inBrackets && isBracket c then some (done, c :: rest)
    else if c = ':' && atGap rest then some (done, c :: rest)
    else if inBrackets && c = ':' && (rest.head?.map fun c => isBracket c || c = '?').getD false then
      none
    else plainLine inBrackets (c :: (held ++ done)) [] rest

/-- The next line that is not blank, with its column and the number of line breaks before it. A
tabulator must not stand where the line is to be indented. -/
def nextLine (indent : Nat) (breaks column : Nat) : List Char → Option (Nat × Nat × List Char)
  | '\n' :: rest => nextLine indent (breaks + 1) 0 rest
  | ' ' :: rest => nextLine indent breaks (column + 1) rest
  | '\t' :: rest => if column < indent then none else nextLine indent breaks (column + 1) rest
  | rest => some (breaks, column, rest)

/-- A plain scalar with its further lines, which are indented by `indent` at least; `done` has its
characters, last first. -/
def plainLines (inBrackets : Bool) (indent : Nat) (done : List Char) :
    Nat → List Char → Option (List Char × List Char)
  | 0, _ => none
  | fuel + 1, '\n' :: rest => do
    let (breaks, column, next) ← nextLine indent 1 0 rest
    let ends := next.isEmpty || (column = 0 && isMarker next) || next.head? == some '#' ||
      (!inBrackets && column < indent)
    if ends then return (done.reverse, '\n' :: rest)
    let (more, after) ← plainLine inBrackets [] [] next
    if more.isEmpty then return (done.reverse, '\n' :: rest)
    plainLines inBrackets indent (more ++ ((fold breaks).reverse ++ done)) fuel after
  | _ + 1, rest => some (done.reverse, rest)

def plain (inBrackets : Bool) (indent : Nat) (s : List Char) : Option (List Char × List Char) :=
  match plainLine inBrackets [] [] s with
  | some (done, rest) => plainLines inBrackets indent done (s.length + 1) rest
  | none => none

/-! Quoted scalars -/

/-- What stands behind the text that was read: blanks, or line breaks. -/
inductive Held where
  /-- Blanks, last first. -/
  | gaps (blanks : List Char)
  | breaks (count : Nat)
  /-- Line breaks of which the first is taken back by a back slash. -/
  | joined (count : Nat)

def Held.chars : Held → List Char
  | gaps blanks => blanks.reverse
  | breaks count => fold count
  | joined count => List.replicate count '\n'

def Held.gap (c : Char) : Held → Held
  | gaps blanks => gaps (c :: blanks)
  | h => h

def Held.line : Held → Held
  | gaps _ => breaks 1
  | breaks count => breaks (count + 1)
  | joined count => joined (count + 1)

def escape? (c : Char) : Option Char :=
  [('0', 0), ('a', 7), ('b', 8), ('t', 9), ('\t', 9), ('n', 10), ('v', 11), ('f', 12), ('r', 13),
    ('e', 0x1B), (' ', 0x20), ('"', 0x22), ('/', 0x2F), ('\\', 0x5C), ('N', 0x85), ('_', 0xA0),
    ('L', 0x2028), ('P', 0x2029)].lookup c |>.map Char.ofNat

def escapeDigits? : Char → Option Nat
  | 'x' => some 2
  | 'u' => some 4
  | 'U' => some 8
  | _ => none

def charOf? (code : Nat) : Option Char :=
  if code < 0x110000 && !(0xD800 ≤ code && code < 0xE000) then some (Char.ofNat code) else none

/-- The rest of a scalar between quotes; `done` is what was read of it, last character first. -/
def quoted (quote : Char) (done : List Char) (held : Held) :
    Nat → List Char → Option (List Char × List Char)
  | 0, _ => none
  | _ + 1, [] => none
  | fuel + 1, c :: rest =>
    let passed := held.chars.reverse ++ done
    if c = '\n' then if isMarker rest then none else quoted quote done held.line fuel rest
    else if isGap c then quoted quote done (held.gap c) fuel rest
    else if c = quote then
      if quote = '\'' && rest.head? == some '\'' then
        quoted quote ('\'' :: passed) (.gaps []) fuel rest.tail
      else some (passed.reverse, rest)
    else if c = '\\' && quote = '"' then
      match rest with
      | [] => none
      | '\n' :: rest => quoted quote passed (.joined 0) fuel rest
      | e :: rest =>
        match escapeDigits? e with
        | some count => do
          if rest.length < count then none
          let code ← Tree.digits? 16 (rest.take count)
          let decoded ← charOf? code
          quoted quote (decoded :: passed) (.gaps []) fuel (rest.drop count)
        | none => do
          let decoded ← escape? e
          quoted quote (decoded :: passed) (.gaps []) fuel rest
    else quoted quote (c :: passed) (.gaps []) fuel rest

/-! Scalars in blocks of lines -/

inductive Ending where
  | strip
  | clip
  | keep
  deriving DecidableEq

/-- The signs behind the mark of a block: how it ends and how far it is indented. -/
def blockSigns : List Char → Option (Ending × Option Nat × List Char)
  | '+' :: c :: rest =>
    if '1' ≤ c && c ≤ '9' then some (.keep, some (c.toNat - 0x30), rest)
    else some (.keep, none, c :: rest)
  | '+' :: rest => some (.keep, none, rest)
  | '-' :: c :: rest =>
    if '1' ≤ c && c ≤ '9' then some (.strip, some (c.toNat - 0x30), rest)
    else some (.strip, none, c :: rest)
  | '-' :: rest => some (.strip, none, rest)
  | c :: rest =>
    if '1' ≤ c && c ≤ '9' then
      match rest with
      | '+' :: rest => some (.keep, some (c.toNat - 0x30), rest)
      | '-' :: rest => some (.strip, some (c.toNat - 0x30), rest)
      | rest => some (.clip, some (c.toNat - 0x30), rest)
    else if c = '0' then none
    else some (.clip, none, c :: rest)
  | [] => some (.clip, none, [])

/-- What follows a line that may hold nothing but a comment here. -/
def afterHeader (s : List Char) : Option (List Char) :=
  let rest := s.dropWhile isGap
  match rest with
  | [] => some []
  | '\n' :: rest => some rest
  | '#' :: _ =>
    if rest.length < s.length then some ((rest.dropWhile (· != '\n')).drop 1) else none
  | _ => none

/-- The column where the lines of a block begin, if it is not given. -/
def blockColumn (least : Nat) : Nat → List Char → Nat
  | column, ' ' :: rest => blockColumn least (column + 1) rest
  | column, '\n' :: rest => blockColumn (max least column) 0 rest
  | column, _ => max least column

/-- The rest of a block; `done` is what was read of it, last character first. Of the line breaks
behind it, `first` tells whether there is one yet and `more` counts the others. In a folded block a
single line break is a space, unless a line beside it begins with a blank, as `wasBlank` tells. -/
def blockLines (folded : Bool) (column : Nat) (done : List Char) (first : Bool) (more : Nat)
    (wasBlank : Bool) : Nat → List Char → List Char × Bool × Nat × List Char
  | 0, s => (done, first, more, s)
  | fuel + 1, s =>
    let indent := (s.takeWhile (· == ' ')).take column
    let line := s.drop indent.length
    match line with
    | '\n' :: rest => blockLines folded column done first (more + 1) wasBlank fuel rest
    | [] => (done, first, more, [])
    | c :: _ =>
      if indent.length < column then (done, first, more, s)
      else
        let blank := isGap c
        let between : List Char :=
          if folded && first && !wasBlank && !blank then if more = 0 then [' '] else []
          else if first then ['\n'] else []
        let text := line.takeWhile (· != '\n')
        let rest := line.dropWhile (· != '\n')
        let done := text.reverse ++ (List.replicate more '\n' ++ (between ++ done))
        match rest with
        | [] => (done, false, 0, [])
        | _ :: rest => blockLines folded column done true 0 blank fuel rest

/-- A scalar in a block of lines within something that is indented by less than `least`. -/
def block (least : Nat) (folded : Bool) (s : List Char) : Option (List Char × List Char) := do
  let (ending, given, rest) ← blockSigns s
  let lines ← afterHeader rest
  let column :=
    match given with
    | some count => least - 1 + count
    | none => max 1 (blockColumn least 0 lines)
  let (done, first, more, rest) :=
    blockLines folded column [] false 0 false (lines.length + 1) lines
  let breaks : List Char :=
    match ending with
    | .strip => []
    | .clip => if first then ['\n'] else []
    | .keep => List.replicate ((if first then 1 else 0) + more) '\n'
  return (done.reverse ++ breaks, rest)

end RecordSearch.Yaml
