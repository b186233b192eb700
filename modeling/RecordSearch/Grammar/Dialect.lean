import RecordSearch.Filter.Printer
import RecordSearch.Grammar.Lexeme
import RecordSearch.Grammar.Rule

/-!
The two dialects of the query language.

Both combine tests with NOT, AND and OR, in this order of strength, and with brackets.  The
extended dialect reserves `id`, writes attributes also in double quotes, and adds INCLUDE, EXCLUDE,
ILIKE, lists of values and comparisons with the value first.  The classic dialect takes `id` for a
name like others and has square brackets too.

A rule yields `Built` values: the text may fit the grammar and still hold a date that is none.
-/

namespace RecordSearch

open RecordSearch.Text
open RecordSearch.Time (Instant)

inductive ValueFault where
  | invalidDate (text : String)
  | reversedPeriod (start stop : Instant)
  deriving DecidableEq, Repr

def ValueFault.message : ValueFault → String
  | invalidDate text => "invalid date '" ++ text ++ "'"
  | reversedPeriod start stop =>
    "period ends before it starts: " ++ start.plainText ++ "/" ++ stop.plainText

/-- What a text that fits the grammar stands for. -/
abbrev Built (α : Type) := Except ValueFault α

inductive Dialect where
  | extended
  | classic
  deriving DecidableEq, Repr

def Dialect.name : Dialect → String
  | extended => "extended"
  | classic => "classic"

namespace Grammar

def blanks : Rule Unit := fun s => ⟨some ((), s.dropWhile isSpace), none⟩

def next {α : Type} (rule : Rule α) : Rule α := do
  blanks
  rule

def mark (c : Char) : Rule Unit := do
  let _ ← Rule.ofScan (.char c)

def word (w : String) : Rule Unit := do
  let _ ← Rule.token (keyword w)

def endOfText : Rule Unit := Rule.token fun s => if s.isEmpty then some ((), s) else none

def separated {α : Type} (separator : Rule Unit) (item : Rule α) : Rule (List α) := do
  let first ← item
  let others ← Rule.many (next (do separator; next item))
  return first :: others

def comparisonOp : Rule Comparison :=
  Rule.token fun
    | '<' :: '>' :: rest => some (.notEq, rest)
    | '<' :: '=' :: rest => some (.le, rest)
    | '>' :: '=' :: rest => some (.ge, rest)
    | '=' :: rest => some (.eq, rest)
    | '<' :: rest => some (.lt, rest)
    | '>' :: rest => some (.gt, rest)
    | _ => none

def quoted : Rule String := String.ofList <$> Rule.token quotedText

def instantOf (text : List Char) : Built Instant :=
  match Time.instant? (String.ofList text) with
  | some at' => .ok at'
  | none => .error (.invalidDate (String.ofList text))

def date : Rule (Built Instant) := instantOf <$> Rule.token dateText

def number : Rule String := String.ofList <$> Rule.token numberText

def value : Rule (Built Literal) :=
  Rule.firstOf
    [(fun s => .ok (.text s)) <$> quoted,
      (fun at' => Literal.date <$> at') <$> date,
      (fun n => .ok (.number n)) <$> number]

/-- Two dates with a slash between them, the later one last. -/
def period : Rule (Built (Instant × Instant)) := Rule.named do
  let start ← date
  next (mark '/')
  let stop ← next date
  return do
    let start ← start
    let stop ← stop
    if stop.lt start then .error (.reversedPeriod start stop) else .ok (start, stop)

def listOf {α : Type} (item : Rule α) : Rule (List α) := do
  mark '('
  let items ← next (separated (mark ',') item)
  next (mark ')')
  return items

def quotedAttribute : Rule String := Rule.named do
  mark '"'
  let name ← Rule.token quotedName
  mark '"'
  return String.ofList name

def extendedAttribute : Rule String :=
  Rule.named (Rule.firstOf [quotedAttribute, String.ofList <$> Rule.token bareName])

def classicAttribute : Rule String := String.ofList <$> Rule.token plainName

def comparison (attr : Rule String) : Rule (Built Filter) := Rule.named do
  let name ← attr
  let op ← next comparisonOp
  let value ← next value
  return value.map fun v => .test name (.compare op v)

/-- A comparison with the value first means the one with its sides exchanged. -/
def reversedComparison (attr : Rule String) : Rule (Built Filter) := Rule.named do
  let value ← value
  let op ← next comparisonOp
  let name ← next attr
  return value.map fun v => .test name (.compare op.flipped v)

/-- An attribute, perhaps NOT, and the test that `rest` reads. -/
def negatable (attr : Rule String) (rest : Rule (Built Predicate)) : Rule (Built Filter) :=
  Rule.named do
    let name ← attr
    let negated ← next (Rule.present (word "not"))
    let predicate ← next rest
    return predicate.map fun p => Filter.negateIf negated (.test name p)

def like (ignoreCase : Rule Bool) : Rule (Built Predicate) := do
  let ignoreCase ← ignoreCase
  let pattern ← next quoted
  return .ok (.like pattern ignoreCase)

def likeWord (caseless : Bool) : Rule Bool :=
  Rule.firstOf ((do word "like"; return false) ::
    if caseless then [do word "ilike"; return true] else [])

def between : Rule (Built Predicate) := do
  word "between"
  let lower ← next value
  next (word "and")
  let upper ← next value
  return do
    let lower ← lower
    let upper ← upper
    return .between lower upper

def inList : Rule (Built Predicate) := do
  word "in"
  let values ← next (listOf value)
  return do
    let values ← values.mapM id
    return .oneOf values

def nullCheck (attr : Rule String) : Rule (Built Filter) := Rule.named do
  let name ← attr
  next (word "is")
  let negated ← next (Rule.present (word "not"))
  next (word "null")
  return .ok (Filter.negateIf negated (.test name .isNull))

def temporal (attr : Rule String) : Rule (Built Filter) := Rule.named do
  let name ← attr
  let predicate : Built Predicate ← next (Rule.firstOf
    [do
      word "during"
      let span ← next period
      return span.map fun p => .during p.1 p.2,
    do
      let later ← Rule.firstOf
        [do word "before"; return false, do word "after"; return true]
      let at' ← next date
      return at'.map fun t => if later then .after t else .before t])
  return predicate.map fun p => .test name p

/-- The attribute that a list of texts without an attribute is about. -/
def identityName : String := "id"

def identityIn : Rule (Built Filter) := Rule.named do
  word "in"
  let texts ← next (listOf quoted)
  return .ok (.test identityName (.oneOf (texts.map .text)))

def constant (w : String) (f : Filter) : Rule (Built Filter) := do
  word w
  return .ok f

end Grammar

namespace Dialect

open Grammar

def attr : Dialect → Rule String
  | extended => extendedAttribute
  | classic => classicAttribute

def tests : Dialect → List (Rule (Built Filter))
  | extended =>
    [constant "include" .everything, constant "exclude" .nothing, identityIn,
      negatable extendedAttribute between, nullCheck extendedAttribute,
      negatable extendedAttribute (like (likeWord true)), negatable extendedAttribute inList,
      temporal extendedAttribute, comparison extendedAttribute,
      reversedComparison extendedAttribute]
  | classic =>
    [negatable classicAttribute between, nullCheck classicAttribute,
      negatable classicAttribute (like (likeWord false)), temporal classicAttribute,
      comparison classicAttribute]

def brackets : Dialect → List (Char × Char)
  | extended => [('(', ')')]
  | classic => [('(', ')'), ('[', ']')]

/-- Filters under one connective; a single one needs none. -/
def gather (combine : List Filter → Filter) (parts : List (Built Filter)) : Built Filter := do
  match ← parts.mapM id with
  | [f] => return f
  | fs => return combine fs

def conjunction (operand : Rule (Built Filter)) : Rule (Built Filter) :=
  Rule.named (gather .all <$> separated (word "and") operand)

def disjunction (operand : Rule (Built Filter)) : Rule (Built Filter) :=
  Rule.named (gather .any <$> separated (word "or") (conjunction operand))

def negation (operand : Rule (Built Filter)) : Rule (Built Filter) := do
  word "not"
  let f ← next operand
  return f.map .not

def bracketed (inner : Rule (Built Filter)) (pair : Char × Char) : Rule (Built Filter) := do
  mark pair.1
  let f ← next inner
  next (mark pair.2)
  return f

/-- A negation, a filter in brackets or a test, with at most `depth` signs of nesting in it. -/
def operand (d : Dialect) : Nat → Rule (Built Filter)
  | 0 => Rule.fail
  | depth + 1 => fun s =>
    Rule.named (Rule.firstOf (negation (d.operand depth) ::
      (d.brackets.map (bracketed (disjunction (d.operand depth))) ++ d.tests))) s

/-- A whole query. Every sign of nesting is a character, so their number is bounded. -/
def query (d : Dialect) : Rule (Built Filter) := Rule.named fun s =>
  (do
    let f ← next (disjunction (d.operand (s.length + 1)))
    next endOfText
    return f : Rule (Built Filter)) s

end Dialect

inductive Refusal where
  /-- The query does not fit the grammar; line and column of the fault count from 1. -/
  | syntaxError (line column : Nat)
  | value (fault : ValueFault)
  deriving DecidableEq, Repr

def Refusal.message : Refusal → String
  | syntaxError line column => "syntax error at " ++ toString line ++ ":" ++ toString column
  | value fault => fault.message

/-- The line and column behind a text that begins at the given ones. A line ends after `\n`. -/
def placeAfter (line column : Nat) : List Char → Nat × Nat
  | [] => (line, column)
  | c :: rest =>
    if c = '\n' then placeAfter (line + 1) 1 rest else placeAfter line (column + 1) rest

namespace Dialect

@[irreducible]
def read (d : Dialect) (q : String) : Except Refusal Filter :=
  let s := q.toList
  match d.query s with
  | ⟨some (.ok f, _), _⟩ => .ok f
  | ⟨some (.error fault, _), _⟩ => .error (.value fault)
  | ⟨none, stuck⟩ =>
    let place := placeAfter 1 1 (s.take (s.length - stuck.getD s.length))
    .error (.syntaxError place.1 place.2)

def chain : List Dialect := [extended, classic]

end Dialect

structure Parsed where
  filter : Filter
  dialect : Dialect

namespace Parsed

/-- The meaning of a query in the first dialect that accepts it, or why each dialect refuses it. -/
def ofQuery (q : String) : List Dialect → Except (List (Dialect × Refusal)) Parsed
  | [] => .error []
  | d :: rest =>
    match d.read q with
    | .ok f => .ok ⟨f, d⟩
    | .error refusal =>
      match ofQuery q rest with
      | .ok parsed => .ok parsed
      | .error refusals => .error ((d, refusal) :: refusals)

end Parsed

end RecordSearch
