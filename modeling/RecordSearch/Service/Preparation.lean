import RecordSearch.Query.Compile
import RecordSearch.Service.Failure

/-!
From the text of a query to a query of the index.

The query is read by the first dialect that accepts it, its attributes are checked against those
that may be queried, and the filter is turned into a query.
-/

namespace RecordSearch

structure PreparedQuery where
  query : Query
  filter : Filter
  dialect : Dialect

def Registry.accept (registry : Registry) (q : String) : Except Failure Parsed :=
  match Parsed.ofQuery q Dialect.chain with
  | .error refusals => .error (.malformedQuery refusals)
  | .ok parsed =>
    match registry.unsupported parsed.filter.mentioned with
    | [] => .ok parsed
    | names => .error (.illegalQuery names)

namespace PreparedQuery

def display (p : PreparedQuery) : String := p.filter.text ++ " [" ++ p.dialect.name ++ "]"

def ofText (registry : Registry) (q : String) : Except Failure PreparedQuery :=
  match registry.accept q with
  | .error failure => .error failure
  | .ok parsed =>
    match Query.ofFilter registry parsed.filter with
    | .ok query => .ok ⟨query, parsed.filter, parsed.dialect⟩
    | .error fault => .error (.compilation fault.message)

end PreparedQuery

end RecordSearch
