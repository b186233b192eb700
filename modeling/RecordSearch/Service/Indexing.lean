import RecordSearch.Data.Json
import RecordSearch.Record.Draft
import RecordSearch.Service.Location
import RecordSearch.Store.Repository

/-!
Indexing: from a document, or from a text extracted elsewhere, to a record in the store.

Each request first asks whether its identity is taken, then makes a record, and then saves it.
The store asks again when it saves, so a request that was overtaken fails like one that came late.
-/

namespace RecordSearch

open RecordSearch.Text
open RecordSearch.Time (Instant)

structure IndexRequest where
  source : Url
  metadata : Url
  mediaType : Option String
  deriving DecidableEq, Repr

/-- The media type that the path of a document suggests, if any. -/
abbrev MediaType.Guess := List Char → Option String

/-- The world that a document is read in. -/
structure World where
  load : Loader
  guess : MediaType.Guess
  extractor : ExtractorConfig
  now : Instant

namespace Indexing

def titleOf (metadata : String) : Option String :=
  let title := trim metadata
  if title.isEmpty then none else some title

def readMetadata (load : Loader) (location : Url) : Except IoFault String :=
  match load location with
  | .error fault => .error fault
  | .ok content => content.text

def readSource (w : World) (location : Url) (mediaType : Option String) :
    Except Failure String :=
  match w.load location with
  | .error fault => .error (.extractionFailed location.text (.io fault))
  | .ok content =>
    match Extraction.extract w.extractor mediaType content with
    | .ok s => .ok s
    | .error (.unsupportedType actual) =>
      .error (.unsupportedMediaType MediaType.textual actual)
    | .error fault => .error (.extractionFailed location.text fault)

def complete (registry : Registry) (r : Record) : Except Failure Record :=
  match r.finish registry with
  | .ok r => .ok r
  | .error fault => .error (.malformedPayload ("Invalid document record: " ++ fault.message))

def recordOf (registry : Registry) (w : World) (id : String) (request : IndexRequest) :
    Except Failure Record :=
  match readMetadata w.load request.metadata with
  | .error fault => .error (.sourceUnreadable request.metadata.text fault)
  | .ok metadata =>
    let mediaType := request.mediaType.or (w.guess request.source.path)
    match readSource w request.source mediaType with
    | .error failure => .error failure
    | .ok contents =>
      complete registry (Record.stamp w.now
        { id := id, contents := some contents, sourceLocation := some request.source.text,
          metadataLocation := some request.metadata.text, title := titleOf metadata,
          mediaType := mediaType })

/-- The key of an envelope under which the text stands. -/
def textKey : String := "ext.extracted.text"

def envelopeType : String := "application/json"

/-- The document in an envelope; an envelope that cannot be read holds none. -/
def envelopeDocument (payload : Content) : Except Failure Tree :=
  match payload with
  | .error fault => .error (.malformedPayload ("Unable to parse JSON payload: " ++ fault.text))
  | .ok bytes =>
    match Json.readSound bytes with
    | some t => .ok t
    | none => .error (.malformedPayload "Unable to parse JSON payload: no JSON value")

def envelopeText (payload : Content) : Except Failure String :=
  match envelopeDocument payload with
  | .error failure => .error failure
  | .ok t =>
    match Json.get? textKey t with
    | some (.text s) => .ok s
    | some _ =>
      .error (.malformedPayload
        ("JSON is malformed because the " ++ textKey ++ " field is not a string"))
    | none =>
      .error (.malformedPayload
        ("JSON is malformed because it does not have a " ++ textKey ++ " field"))

def recordOfEnvelope (registry : Registry) (id mediaType : String) (payload : Content) :
    Except Failure Record :=
  match envelopeText payload with
  | .error failure => .error failure
  | .ok contents =>
    complete registry { id := id, contents := some contents, mediaType := some mediaType }

variable {σ : Type}

/-- Refuses an identity that is taken. -/
def precheck (store : Repository σ) (id : String) (s : σ) : Except Failure Unit × σ :=
  match store.holds id s with
  | (.ok false, s) => (.ok (), s)
  | (.ok true, s) => (.error (.duplicateIdentity id), s)
  | (.error fault, s) => (.error (.storeUnavailable "Unable to query index" fault), s)

/-- Saves a record. -/
def commit (store : Repository σ) (r : Record) (s : σ) : Except Failure Unit × σ :=
  match store.save r s with
  | (.ok (), s) => (.ok (), s)
  | (.error (.duplicateKey id), s) => (.error (.duplicateIdentity id), s)
  | (.error fault, s) => (.error (.storeUnavailable "Unable to save index" fault), s)

/-- Asks for an identity, makes a record and saves it. -/
def run (store : Repository σ) (id : String) (made : Except Failure Record) (s : σ) :
    Except Failure Unit × σ :=
  match precheck store id s with
  | (.error failure, s) => (.error failure, s)
  | (.ok (), s) =>
    match made with
    | .error failure => (.error failure, s)
    | .ok r => commit store r s

def index (registry : Registry) (store : Repository σ) (w : World) (id : String)
    (request : IndexRequest) : σ → Except Failure Unit × σ :=
  run store id (recordOf registry w id request)

/-- Indexes an envelope; its media type is checked before all else. -/
def indexEnvelope (registry : Registry) (store : Repository σ) (id mediaType : String)
    (payload : Content) (s : σ) : Except Failure Unit × σ :=
  if MediaType.essence mediaType = envelopeType then
    run store id (recordOfEnvelope registry id mediaType payload) s
  else (.error (.unsupportedMediaType envelopeType mediaType), s)

end Indexing

end RecordSearch
