import RecordSearch.Http.Admission
import RecordSearch.Http.Answer
import RecordSearch.Http.Description
import RecordSearch.Http.Payload
import RecordSearch.Http.Route
import RecordSearch.Service.Startup

/-!
Answering HTTP requests.

`Services.respond` is the whole of the interface: it answers one request and returns the services as
the request leaves them.
-/

namespace RecordSearch

open RecordSearch.Http
open RecordSearch.Time (Instant)

structure Surroundings where
  load : Loader
  guess : MediaType.Guess
  now : Instant
  /-- The time that a search takes, in seconds. -/
  elapsed : String

namespace Services

def answer {α : Type} (f : α → Answer) : Except Failure α → Answer
  | .ok a => f a
  | .error failure => .ofFailure failure

def healthAnswer : Answer :=
  .document (.named [("status", .text "healthy"), ("service", .text "CommonQL Search API")])

def searchAnswer (elapsed q : String) (locators : List String) : Answer :=
  .document (.named
    [("query", .text q), ("duration", .real elapsed), ("result_count", .nat locators.length),
      ("results", .list (locators.map .text))])

def statsAnswer (s : Services) (count : Nat) : Answer :=
  .document (.named
    [("total_docs", .nat count), ("read_only", .bool !s.store.handle.writable),
      ("write_mode", .text s.config.writeMode.name),
      ("queryable_attributes", .list (s.registry.queryableAttributes.map fun a => .text a.name))])

def queryOf (limit : Nat) (r : Request) : Except Failure String :=
  match Form.only "q" r.query with
  | .error fault =>
    .error (.invalidRequest ("Invalid query string: Query deserialize error: " ++ fault.message))
  | .ok q =>
    match Admission.query limit q with
    | .error failure => .error failure
    | .ok () => .ok q

def search (s : Services) (elapsed : String) (r : Request) : Answer × Services :=
  match queryOf s.config.limits.queryLength r with
  | .error failure => (.ofFailure failure, s)
  | .ok q =>
    let (found, s) := s.find q
    (answer (searchAnswer elapsed q) found, s)

/-- The body of a request to index under an identity: identity, version and length are checked in
this order. -/
def admitted (c : Config) (id : String) (r : Request) : Except Failure (List UInt8) := do
  Admission.identity id
  Admission.version c.version (r.header? "accept-version")
  r.boundedBody c.limits.payloadBytes

def write (s : Services) (w : Surroundings) (id : String) (r : Request) (body : List UInt8) :
    Except Failure Unit × Services :=
  match s.config.writeMode with
  | .extraction =>
    match IndexBody.requestOf body with
    | .error failure => (.error failure, s)
    | .ok request => s.index w.load w.guess w.now id request
  | .envelope =>
    match Admission.envelope s.config.limits.payloadBytes (r.header? "content-type") body.length with
    | .error failure => (.error failure, s)
    | .ok mediaType => s.indexEnvelope id mediaType (.ok body)

def put (s : Services) (w : Surroundings) (id : String) (r : Request) : Answer × Services :=
  match admitted s.config id r with
  | .error failure => (.ofFailure failure, s)
  | .ok body =>
    let (result, s) := s.write w id r body
    (answer (fun _ => .done) result, s)

def stats (s : Services) : Answer × Services :=
  match s.store.count with
  | (.ok count, store) =>
    let s := { s with store := store }
    (s.statsAnswer count, s)
  | (.error fault, store) =>
    (.ofFailure (.storeUnavailable "Unable to query index" fault), { s with store := store })

def respond (s : Services) (w : Surroundings) (r : Request) : Answer × Services :=
  match Route.ofRequest? r with
  | none => (.notFound, s)
  | some .health => (healthAnswer, s)
  | some .search => s.search w.elapsed r
  | some (.index id) => s.put w id r
  | some .stats => s.stats
  | some .description => (.document Description.document, s)

def respondAll (w : Surroundings) : Services → List Request → List Answer × Services
  | s, [] => ([], s)
  | s, r :: rest =>
    let (a, s) := s.respond w r
    let (answers, s) := respondAll w s rest
    (a :: answers, s)

end Services

end RecordSearch
