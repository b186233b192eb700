import RecordSearch.Http.Request

/-!
Routes: what a request asks for, by its method and path.
-/

namespace RecordSearch.Http

open RecordSearch.Text

inductive Route where
  | health
  | search
  /-- Indexing a document under an identity. -/
  | index (id : String)
  | stats
  /-- The description of all documents that are sent and received. -/
  | description
  deriving DecidableEq, Repr

namespace Route

def base : List Char := "/api/v1/".toList

def behind? (start s : List Char) : Option (List Char) :=
  if start.isPrefixOf s then some (s.drop start.length) else none

/-- The identity that a path ends with: all of it, with no slash in it. -/
def identity? (s : List Char) : Option String :=
  if s.isEmpty || s.contains '/' then none
  else some (String.ofList (Utf8.decodeLossy (Url.decodeBytes (Utf8.encode s))))

def ofRequest? (r : Request) : Option Route := do
  let rest ← behind? base r.path
  match r.method with
  | "GET" =>
    if rest = "health".toList then some health
    else if rest = "search".toList then some search
    else if rest = "stats".toList then some stats
    else if rest = "openapi.json".toList then some description
    else none
  | "PUT" => index <$> ((behind? "index/".toList rest).bind identity?)
  | _ => none

end Route

end RecordSearch.Http
