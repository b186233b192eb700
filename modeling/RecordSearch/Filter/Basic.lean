import RecordSearch.Text.Order
import RecordSearch.Time.Printer
import RecordSearch.Time.Reader

/-!
Filters: what a query asks of a record.

A `Filter` combines tests of single attributes by conjunction, disjunction and negation.  The
attribute of a test is any name; whether it may be queried is for a registry to say.
-/

namespace RecordSearch

open RecordSearch.Time (Instant)

inductive Literal where
  | text (value : String)
  /-- A number, as it was written. -/
  | number (digits : String)
  | date (at' : Instant)
  deriving DecidableEq, Repr

namespace Literal

def asText : Literal → String
  | text value => value
  | number digits => digits
  | date at' => at'.text

/-- The value as a moment: a date, or a text that reads as one. -/
def asInstant? : Literal → Option Instant
  | date at' => some at'
  | text value => Time.instant? value
  | number _ => none

end Literal

inductive Comparison where
  | eq
  | notEq
  | lt
  | le
  | gt
  | ge
  deriving DecidableEq, Repr

namespace Comparison

def symbol : Comparison → String
  | eq => "="
  | notEq => "<>"
  | lt => "<"
  | le => "<="
  | gt => ">"
  | ge => ">="

def ofSymbol? : String → Option Comparison
  | "=" => some eq
  | "<>" => some notEq
  | "<" => some lt
  | "<=" => some le
  | ">" => some gt
  | ">=" => some ge
  | _ => none

def flipped : Comparison → Comparison
  | lt => gt
  | le => ge
  | gt => lt
  | ge => le
  | op => op

end Comparison

inductive Predicate where
  | compare (op : Comparison) (value : Literal)
  /-- A pattern in which `%` stands for any characters and `_` for one. -/
  | like (pattern : String) (ignoreCase : Bool)
  | oneOf (values : List Literal)
  /-- Both bounds belong to the range. -/
  | between (lower upper : Literal)
  | isNull
  | before (at' : Instant)
  | after (at' : Instant)
  /-- Neither end belongs to the period. -/
  | during (start stop : Instant)
  deriving DecidableEq, Repr

inductive Filter where
  /-- Holds of every record. -/
  | everything
  /-- Holds of no record. -/
  | nothing
  | all (parts : List Filter)
  | any (parts : List Filter)
  | not (inner : Filter)
  | test (name : String) (predicate : Predicate)
  deriving Repr

namespace Filter

mutual

def beq : Filter → Filter → Bool
  | everything, everything => true
  | nothing, nothing => true
  | all fs, all gs => beqList fs gs
  | any fs, any gs => beqList fs gs
  | not f, not g => beq f g
  | test a p, test b q => a == b && p == q
  | _, _ => false

def beqList : List Filter → List Filter → Bool
  | [], [] => true
  | f :: fs, g :: gs => beq f g && beqList fs gs
  | _, _ => false

end

instance : BEq Filter := ⟨beq⟩

def negateIf (negated : Bool) (f : Filter) : Filter := if negated then .not f else f

mutual

def mentioned : Filter → List String
  | everything => []
  | nothing => []
  | all fs => mentionedIn fs
  | any fs => mentionedIn fs
  | not f => mentioned f
  | test name _ => [name]

def mentionedIn : List Filter → List String
  | [] => []
  | f :: fs => mentioned f ++ mentionedIn fs

end

def attributes (f : Filter) : List String := Text.textSet f.mentioned

end Filter

end RecordSearch
