import RecordSearch.Data.Json
import RecordSearch.Http.Request
import RecordSearch.Service.Indexing

/-!
The bodies of requests: their bounds, and what a request to index a document says.
-/

namespace RecordSearch.Http

open RecordSearch.Text

def greatestWord : Nat := 18446744073709551615

/-- A number in decimal digits, with at most a plus sign before it. -/
def word? (s : String) : Option Nat :=
  let digits :=
    match s.toList with
    | '+' :: rest => rest
    | rest => rest
  if digits.isEmpty || !digits.all isAsciiDigit then none
  else
    let n := digits.foldl (fun n c => n * 10 + (c.toNat - 0x30)) 0
    if n ≤ greatestWord then some n else none

namespace Request

def declaredLength? (r : Request) : Option Nat := (r.header? "content-length").bind word?

/-- The body of a request that keeps to a limit both in what it says and in what it does. The length
that is reported is the one that was said, if any. -/
def boundedBody (limit : Nat) (r : Request) : Except Failure (List UInt8) :=
  match r.declaredLength?.filter (limit < ·) with
  | some size => .error (.payloadTooLarge size limit)
  | none =>
    if r.body.length ≤ limit then
      match r.broken with
      | none => .ok r.body
      | some reason => .error (.invalidRequest ("Failed to read request body: " ++ reason))
    else
      .error (.payloadTooLarge (r.declaredLength?.getD (min (limit + 1) greatestWord)) limit)

end Request

structure IndexBody where
  sourceLocation : String
  metadataLocation : String
  mediaType : Option String
  deriving DecidableEq, Repr

namespace IndexBody

def ofTree? (t : Tree) : Option IndexBody := do
  let m ← t.members? true ["sourceLocation", "metadataLocation", "mediaType"]
  let sourceLocation ← m.required "sourceLocation" Tree.asText?
  let metadataLocation ← m.required "metadataLocation" Tree.asText?
  let mediaType ← m.withDefault "mediaType" none (Tree.asOption? Tree.asText?)
  return { sourceLocation, metadataLocation, mediaType }

def ofBytes? (bytes : List UInt8) : Option IndexBody := (Json.read bytes.length bytes).bind ofTree?

def location (s : String) : Except Failure Url :=
  match Url.parse s with
  | .ok u => .ok u
  | .error _ => .error (.invalidRequest ("Invalid URI syntax: " ++ s))

/-- The request that a body makes. A blank media type is none. -/
def request (b : IndexBody) : Except Failure IndexRequest := do
  let source ← location b.sourceLocation
  let metadata ← location b.metadataLocation
  return ⟨source, metadata, b.mediaType.filter fun s => !allBlank s⟩

def requestOf (bytes : List UInt8) : Except Failure IndexRequest :=
  match ofBytes? bytes with
  | some b => b.request
  | none => .error (.invalidRequest "Invalid index request: ")

end IndexBody

end RecordSearch.Http
