import RecordSearch.Extraction
import RecordSearch.Service.Search

/-!
The configuration of the services.
-/

namespace RecordSearch

inductive WriteMode where
  /-- The locations of a document and of its metadata. -/
  | extraction
  /-- A text that was extracted elsewhere. -/
  | envelope
  deriving DecidableEq, Repr

namespace WriteMode

def name : WriteMode → String
  | extraction => "extraction"
  | envelope => "envelope"

def ofName? : String → Option WriteMode
  | "extraction" => some extraction
  | "envelope" => some envelope
  | _ => none

end WriteMode

structure ServerConfig where
  host : String := "127.0.0.1"
  port : Nat := 8080
  deriving DecidableEq, Repr

/-- Where the index is kept; without a path it is kept in memory. -/
structure IndexConfig where
  path : Option String := none
  heapBytes : Nat := 50000000
  deriving DecidableEq, Repr

structure Limits where
  queryLength : Nat := 5000
  payloadBytes : Nat := 10737418240
  deriving DecidableEq, Repr

structure Config where
  server : ServerConfig := {}
  index : IndexConfig := {}
  /-- The file that declares the attributes; without it they are the standard ones. -/
  schemaPath : Option String := none
  writeMode : WriteMode := .extraction
  locator : Locator := .standard
  extractor : ExtractorConfig := {}
  /-- How long the answer of another host is waited for, in seconds. -/
  timeout : Nat := 30
  limits : Limits := {}
  /-- The version that requests to index must name. -/
  version : String := "0.1.0"
  deriving DecidableEq, Repr

end RecordSearch
