import RecordSearch.Filter.Printer
import RecordSearch.Pattern.Size
import RecordSearch.Query.Basic

/-!
From filters to queries.

The kind of an attribute decides which tests of it make sense and what they ask of an index.
Words of a LIKE pattern on prose are matched one by one, where `%` joins what it touches.
-/

namespace RecordSearch

open RecordSearch.Text
open RecordSearch.Time (Instant)

inductive CompileFault where
  | unregistered (name : String)
  | rangeOnText (name : String)
  | periodOnOther (name : String)
  | likeOnDate (name : String)
  | invalidDate (value : Literal) (name : String)
  | largePattern (pattern : String)
  | largeWildcard (source : String)
  deriving DecidableEq, Repr

namespace CompileFault

def sizeMessage : String :=
  "An invalid argument was passed: 'RegexQueryError: Compiled regex exceeds size limit of " ++
    toString Pattern.stateLimit ++ " states'"

def message : CompileFault → String
  | unregistered name => "Attribute '" ++ name ++ "' is not registered"
  | rangeOnText name => "range comparison is not supported on text attribute '" ++ name ++ "'"
  | periodOnOther name => "temporal predicate on non-date attribute '" ++ name ++ "'"
  | likeOnDate name => "LIKE is not supported on date attribute '" ++ name ++ "'"
  | invalidDate value name =>
    value.display ++ " is not a valid date for attribute '" ++ name ++ "'"
  | largePattern pattern => "Invalid LIKE pattern '" ++ pattern ++ "': " ++ sizeMessage
  | largeWildcard source => "Invalid wildcard pattern '" ++ source ++ "': " ++ sizeMessage

end CompileFault

namespace Query

/-- The query of a pattern, unless the pattern is too large. -/
def ofPattern (a : Attribute) (p : Pattern) (fault : CompileFault) : Except CompileFault Query :=
  if p.isTooLarge then .error fault else .ok (.pattern a p)

/-- The records with a value for an attribute. -/
def holding (kind : Kind) (a : Attribute) : Query :=
  match kind with
  | .date => .dates a .unbounded .unbounded
  | _ => .pattern a .anything

/-- Words that must stand in a text: one as it is, several as a phrase. Without any, every record
with a value will do, since an index leaves out the same words. -/
def ofWords (a : Attribute) : List (Nat × String) → Query
  | [] => holding .text a
  | [w] => .term a w.2
  | words => .phrase a words

def ofValue (kind : Kind) (a : Attribute) (v : Literal) : Except CompileFault Query :=
  match kind with
  | .keyword => .ok (.term a v.asText)
  | .text =>
    .ok (ofWords a ((Analysis.of v.asText.toList).tokens.map fun t => (t.position, t.word)))
  | .date =>
    match v.asInstant? with
    | some at' => .ok (.dates a (.included at'.seconds) (.included at'.seconds))
    | none => .error (.invalidDate v a.name)

def boundSeconds (a : Attribute) : Bound Literal → Except CompileFault (Bound Int)
  | .unbounded => .ok .unbounded
  | .included v =>
    match v.asInstant? with
    | some at' => .ok (.included at'.seconds)
    | none => .error (.invalidDate v a.name)
  | .excluded v =>
    match v.asInstant? with
    | some at' => .ok (.excluded at'.seconds)
    | none => .error (.invalidDate v a.name)

def ofRange (kind : Kind) (a : Attribute) (lower upper : Bound Literal) :
    Except CompileFault Query :=
  match kind with
  | .keyword => .ok (.keywords a (lower.map Literal.asText) (upper.map Literal.asText))
  | .text => .error (.rangeOnText a.name)
  | .date => do
    let lower ← boundSeconds a lower
    let upper ← boundSeconds a upper
    return .dates a lower upper

def ofPeriod (kind : Kind) (a : Attribute) (lower upper : Bound Instant) :
    Except CompileFault Query :=
  match kind with
  | .date => .ok (.dates a (lower.map Instant.seconds) (upper.map Instant.seconds))
  | _ => .error (.periodOnOther a.name)

/-- Words of a LIKE pattern that `%` joins into one. -/
structure Cluster where
  /-- Whether `%` stands before the first word. -/
  open' : Bool
  words : List Token
  /-- Whether `%` stands after the last word. -/
  close' : Bool

/-- Whether nothing but `%` stands between a word and the one before it. -/
def isJoint (gap : List Char) : Bool := !gap.isEmpty && gap.all (· == '%')

/-- The clusters of the words of a LIKE pattern. `current` holds the words of the cluster that is
under way, last first, and `leading` tells whether `%` stands before them. -/
def clusters (leading : Bool) (current : List Token) (tail : List Char) :
    List Token → List Cluster
  | [] =>
    if current.isEmpty then [] else [⟨leading, current.reverse, tail.head? == some '%'⟩]
  | t :: rest =>
    if current.isEmpty then clusters (t.gap.getLast? == some '%') [t] tail rest
    else if isJoint t.gap then clusters leading (t :: current) tail rest
    else
      ⟨leading, current.reverse, t.gap.head? == some '%'⟩ ::
        clusters (t.gap.getLast? == some '%') [t] tail rest

namespace Cluster

def plain? (c : Cluster) : Option Token :=
  match c.words with
  | [t] => if c.open' || c.close' then none else some t
  | _ => none

/-- The words of a cluster with a run between any two. -/
def joinWords : List Token → Pattern
  | [] => []
  | [t] => Pattern.ofWord t.word
  | t :: rest => Pattern.ofWord t.word ++ .run :: joinWords rest

def pattern (c : Cluster) : Pattern :=
  (if c.open' then [.run] else []) ++ joinWords c.words ++ (if c.close' then [.run] else [])

def query (a : Attribute) (c : Cluster) : Except CompileFault Query :=
  match c.plain? with
  | some t => .ok (.term a t.word)
  | none => ofPattern a c.pattern (.largeWildcard c.pattern.source)

end Cluster

/-- The query of a LIKE pattern on prose. -/
def ofProsePattern (a : Attribute) (text : String) : Except CompileFault Query :=
  let analysis := Analysis.of text.toList
  let found := clusters false [] analysis.tail analysis.tokens
  match found.mapM Cluster.plain? with
  | some words => .ok (ofWords a (words.map fun t => (t.position, t.word)))
  | none =>
    match found.mapM (Cluster.query a) with
    | .error fault => .error fault
    | .ok [q] => .ok q
    | .ok queries => .ok (.boolean queries [] [])

def ofLike (kind : Kind) (a : Attribute) (text : String) (ignoreCase : Bool) :
    Except CompileFault Query :=
  match kind with
  | .text => ofProsePattern a text
  | .keyword => ofPattern a (Pattern.ofLike ignoreCase text) (.largePattern text)
  | .date => .error (.likeOnDate a.name)

/-- The query of a test of an attribute of a kind. -/
def ofPredicate (kind : Kind) (a : Attribute) : Predicate → Except CompileFault Query
  | .compare .eq v => ofValue kind a v
  | .compare .notEq v => negate <$> ofValue kind a v
  | .compare .lt v => ofRange kind a .unbounded (.excluded v)
  | .compare .le v => ofRange kind a .unbounded (.included v)
  | .compare .gt v => ofRange kind a (.excluded v) .unbounded
  | .compare .ge v => ofRange kind a (.included v) .unbounded
  | .like text ignoreCase => ofLike kind a text ignoreCase
  | .oneOf values => (fun queries => .boolean [] queries []) <$> values.mapM (ofValue kind a)
  | .between lower upper => ofRange kind a (.included lower) (.included upper)
  | .isNull => .ok (negate (holding kind a))
  | .before at' => ofPeriod kind a .unbounded (.excluded at')
  | .after at' => ofPeriod kind a (.excluded at') .unbounded
  | .during start stop => ofPeriod kind a (.excluded start) (.excluded stop)

/-- The query of a test. A list without values asks nothing of its attribute. -/
def ofTest (registry : Registry) (name : String) (p : Predicate) : Except CompileFault Query :=
  match Attribute.ofName? name with
  | some a => ofPredicate (registry.kind a) a p
  | none => if p = .oneOf [] then .ok (.boolean [] [] []) else .error (.unregistered name)

mutual

/-- The query that finds the records of a filter. -/
def ofFilter (registry : Registry) : Filter → Except CompileFault Query
  | .everything => .ok .all
  | .nothing => .ok .nothing
  | .all fs => (fun qs => .boolean qs [] []) <$> ofFilters registry fs
  | .any fs => (fun qs => .boolean [] qs []) <$> ofFilters registry fs
  | .not f => negate <$> ofFilter registry f
  | .test name p => ofTest registry name p

def ofFilters (registry : Registry) : List Filter → Except CompileFault (List Query)
  | [] => .ok []
  | f :: rest => do
    let q ← ofFilter registry f
    let qs ← ofFilters registry rest
    return q :: qs

end

end Query

end RecordSearch
