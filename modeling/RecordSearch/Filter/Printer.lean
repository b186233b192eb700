import RecordSearch.Filter.Basic
import RecordSearch.Text.Quoted

/-!
The normal form of a filter as text, which the query language reads back.
-/

namespace RecordSearch

open RecordSearch.Text (Quoted.literal)

namespace Literal

def render : Literal → List Char
  | text value => Quoted.literal value.toList
  | number digits => digits.toList
  | date at' => at'.render

def display (l : Literal) : String := String.ofList l.render

end Literal

def joined (separator : List Char) : List (List Char) → List Char
  | [] => []
  | [s] => s
  | s :: t :: rest => s ++ separator ++ joined separator (t :: rest)

namespace Predicate

/-- The part of a test that follows the attribute. -/
def render : Predicate → List Char
  | compare op value => op.symbol.toList ++ ' ' :: value.render
  | like pattern ignoreCase =>
    (if ignoreCase then "ILIKE " else "LIKE ").toList ++ Quoted.literal pattern.toList
  | oneOf values => "IN (".toList ++ joined ", ".toList (values.map Literal.render) ++ [')']
  | between lower upper => "BETWEEN ".toList ++ lower.render ++ " AND ".toList ++ upper.render
  | isNull => "IS NULL".toList
  | before at' => "BEFORE ".toList ++ at'.render
  | after at' => "AFTER ".toList ++ at'.render
  | during start stop => "DURING ".toList ++ start.render ++ '/' :: stop.render

end Predicate

namespace Filter

mutual

def render : Filter → List Char
  | everything => "INCLUDE".toList
  | nothing => "EXCLUDE".toList
  | all fs => '(' :: (renderParts " AND ".toList fs ++ [')'])
  | any fs => '(' :: (renderParts " OR ".toList fs ++ [')'])
  | not f => "NOT (".toList ++ render f ++ [')']
  | test name predicate => name.toList ++ ' ' :: predicate.render

def renderParts (separator : List Char) : List Filter → List Char
  | [] => []
  | [f] => render f
  | f :: g :: rest => render f ++ separator ++ renderParts separator (g :: rest)

end

def text (f : Filter) : String := String.ofList f.render

end Filter

end RecordSearch
