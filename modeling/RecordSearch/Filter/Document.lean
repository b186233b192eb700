import RecordSearch.Data.Tree
import RecordSearch.Filter.Basic

/-!
Filters as data documents.
-/

namespace RecordSearch

open RecordSearch.Time (Instant)

namespace Tree

def ofInstant (at' : Instant) : Tree := text at'.exactText

def asInstant? (t : Tree) : Option Instant := t.asText?.bind Time.wireInstant?

end Tree

namespace Literal

def toTree : Literal → Tree
  | text value => .tagged "Text" (.text value)
  | number digits => .tagged "Number" (.text digits)
  | date at' => .tagged "Date" (.ofInstant at')

def ofTree? (t : Tree) : Option Literal := do
  let (name, t) ← t.alternative?
  match name with
  | "Text" => text <$> t.asText?
  | "Number" => number <$> t.asText?
  | "Date" => date <$> t.asInstant?
  | _ => none

end Literal

namespace Comparison

def documentName : Comparison → String
  | eq => "Eq"
  | notEq => "NotEq"
  | lt => "Lt"
  | le => "Lte"
  | gt => "Gt"
  | ge => "Gte"

def ofTree? (t : Tree) : Option Comparison := do
  let name ← t.bareAlternative?
  [eq, notEq, lt, le, gt, ge].find? fun op => op.documentName == name

end Comparison

namespace Predicate

def toTree (name : String) : Predicate → Tree
  | compare op value =>
    .tagged "Compare" (.named
      [("attribute", .text name), ("op", .text op.documentName), ("value", value.toTree)])
  | like pattern ignoreCase =>
    .tagged "Like" (.named
      [("attribute", .text name), ("pattern", .text pattern),
        ("case_insensitive", .bool ignoreCase)])
  | oneOf values =>
    .tagged "In" (.named
      [("attribute", .text name), ("values", .list (values.map Literal.toTree))])
  | between lower upper =>
    .tagged "Between" (.named
      [("attribute", .text name), ("lower", lower.toTree), ("upper", upper.toTree)])
  | isNull => .tagged "IsNull" (.named [("attribute", .text name)])
  | before at' => .tagged "Before" (.named [("attribute", .text name), ("instant", .ofInstant at')])
  | after at' => .tagged "After" (.named [("attribute", .text name), ("instant", .ofInstant at')])
  | during start stop =>
    .tagged "During" (.named
      [("attribute", .text name), ("start", .ofInstant start), ("end", .ofInstant stop)])

def ofTree? (kind : String) (t : Tree) : Option (String × Predicate) :=
  let about (names : List String) (read : Tree.Members → Option Predicate) :
      Option (String × Predicate) := do
    let m ← t.members? true ("attribute" :: names)
    let name ← m.required "attribute" Tree.asText?
    let predicate ← read m
    return (name, predicate)
  match kind with
  | "Compare" => about ["op", "value"] fun m => do
    let op ← m.required "op" Comparison.ofTree?
    let value ← m.required "value" Literal.ofTree?
    return compare op value
  | "Like" => about ["pattern", "case_insensitive"] fun m => do
    let pattern ← m.required "pattern" Tree.asText?
    let ignoreCase ← m.required "case_insensitive" Tree.asBool?
    return like pattern ignoreCase
  | "In" => about ["values"] fun m => do
    let values ← m.required "values" (Tree.asList? Literal.ofTree?)
    return oneOf values
  | "Between" => about ["lower", "upper"] fun m => do
    let lower ← m.required "lower" Literal.ofTree?
    let upper ← m.required "upper" Literal.ofTree?
    return between lower upper
  | "IsNull" => about [] fun _ => some isNull
  | "Before" => about ["instant"] fun m => before <$> m.required "instant" Tree.asInstant?
  | "After" => about ["instant"] fun m => after <$> m.required "instant" Tree.asInstant?
  | "During" => about ["start", "end"] fun m => do
    let start ← m.required "start" Tree.asInstant?
    let stop ← m.required "end" Tree.asInstant?
    return during start stop
  | _ => none

end Predicate

namespace Filter

mutual

def toTree : Filter → Tree
  | everything => .text "Include"
  | nothing => .text "Exclude"
  | all fs => .tagged "And" (.list (toTrees fs))
  | any fs => .tagged "Or" (.list (toTrees fs))
  | not f => .tagged "Not" (toTree f)
  | test name predicate => predicate.toTree name

def toTrees : List Filter → List Tree
  | [] => []
  | f :: rest => toTree f :: toTrees rest

end

mutual

def ofTree? : Tree → Option Filter
  | .text "Include" => some everything
  | .text "Exclude" => some nothing
  | .record [(some "Include", .null)] => some everything
  | .record [(some "Exclude", .null)] => some nothing
  | .record [(some "And", .list items)] => all <$> ofTrees? items
  | .record [(some "Or", .list items)] => any <$> ofTrees? items
  | .record [(some "Not", t)] => not <$> ofTree? t
  | .record [(some kind, t)] => (Predicate.ofTree? kind t).map fun p => test p.1 p.2
  | _ => none

def ofTrees? : List Tree → Option (List Filter)
  | [] => some []
  | t :: rest => do
    let f ← ofTree? t
    let fs ← ofTrees? rest
    return f :: fs

end

end Filter

end RecordSearch
