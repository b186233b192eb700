import RecordSearch.Pattern.Basic
import RecordSearch.Record.Stored
import RecordSearch.Text.Analysis
import RecordSearch.Text.Order

/-!
Queries of an index, and the records they match.

An index knows a record by the terms of its texts and by its dates in whole seconds.
-/

namespace RecordSearch

open RecordSearch.Text

inductive Bound (α : Type) where
  | unbounded
  | included (a : α)
  | excluded (a : α)
  deriving DecidableEq, Repr

namespace Bound

variable {α β : Type}

def map (f : α → β) : Bound α → Bound β
  | unbounded => unbounded
  | included a => included (f a)
  | excluded a => excluded (f a)

/-- Whether a value lies above a lower bound. -/
def isBelow (lt : α → α → Bool) (a : α) : Bound α → Bool
  | unbounded => true
  | included b => !lt a b
  | excluded b => lt b a

/-- Whether a value lies below an upper bound. -/
def isAbove (lt : α → α → Bool) (a : α) : Bound α → Bool
  | unbounded => true
  | included b => !lt b a
  | excluded b => lt a b

end Bound

inductive Query where
  | all
  | nothing
  /-- All of `must` and none of `mustNot`; if `must` is empty, one of `should` besides. -/
  | boolean (must should mustNot : List Query)
  | term (a : Attribute) (word : String)
  /-- Words at the given distances from one another. -/
  | phrase (a : Attribute) (words : List (Nat × String))
  | keywords (a : Attribute) (lower upper : Bound String)
  /-- The bounds are seconds of moments that are to be `Indexable`. -/
  | dates (a : Attribute) (lower upper : Bound Int)
  | pattern (a : Attribute) (p : Pattern)
  deriving Repr

/-- A keyword of more bytes than this is kept with its record, but no query finds it. -/
def longestKeyword : Nat := 65530

/-- The terms under which an attribute of a kind is found, with their positions. -/
def Kind.terms (kind : Kind) (s : String) : List (Nat × String) :=
  match kind with
  | .text => (Analysis.of s.toList).tokens.map fun t => (t.position, t.word)
  | .keyword => if s.utf8ByteSize ≤ longestKeyword then [(0, s)] else []
  | .date => []

def Stored.terms (kind : Attribute → Kind) (d : Stored) (a : Attribute) : List (Nat × String) :=
  match d.text? a with
  | some s => (kind a).terms s
  | none => []

def stands (terms : List (Nat × String)) (position : Int) (word : String) : Bool :=
  terms.any fun t => (t.1 : Int) == position && t.2 == word

/-- Whether words stand among terms at their distances from one another. -/
def isPhraseOf (words : List (Nat × String)) (terms : List (Nat × String)) : Bool :=
  match words with
  | [] => false
  | (offset, word) :: _ =>
    terms.any fun t => t.2 == word &&
      words.all fun w => stands terms ((t.1 : Int) - offset + w.1) w.2

namespace Query

def negate (q : Query) : Query := boolean [all] [] [q]

mutual

/-- Whether a query matches a record whose attributes have the given kinds. -/
def matches' (kind : Attribute → Kind) (d : Stored) : Query → Bool
  | all => true
  | nothing => false
  | boolean must should mustNot =>
    everyMatches kind d must && !someMatches kind d mustNot &&
      (!must.isEmpty || someMatches kind d should)
  | term a word => (d.terms kind a).any (·.2 == word)
  | phrase a words => isPhraseOf words (d.terms kind a)
  | keywords a lower upper =>
    (d.terms kind a).any fun t =>
      lower.isBelow Utf8.lt t.2 && upper.isAbove Utf8.lt t.2
  | dates a lower upper =>
    (d.seconds? a).any fun s =>
      lower.isBelow (fun x y => x < y) s && upper.isAbove (fun x y => x < y) s
  | pattern a p => (d.terms kind a).any fun t => p.accepts t.2.toList

def everyMatches (kind : Attribute → Kind) (d : Stored) : List Query → Bool
  | [] => true
  | q :: rest => matches' kind d q && everyMatches kind d rest

def someMatches (kind : Attribute → Kind) (d : Stored) : List Query → Bool
  | [] => false
  | q :: rest => matches' kind d q || someMatches kind d rest

end

end Query

end RecordSearch
