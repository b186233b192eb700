import RecordSearch.Extraction
import RecordSearch.Grammar.Dialect
import RecordSearch.Store.Basic
import RecordSearch.Url.Basic

/-!
Failures as callers see them: a kind with a status, a message, and what lies behind it.
-/

namespace RecordSearch

open RecordSearch.Text

inductive FailureKind where
  | malformedQuery
  | illegalQuery
  | compilationFailed
  | duplicateIdentity
  | storeUnavailable
  | sourceUnreadable
  | extractionFailed
  | malformedPayload
  | unsupportedMediaType
  | queryExecutionFailed
  | corruptRecord
  | invalidRequest
  | payloadTooLarge
  | unsupportedVersion
  deriving DecidableEq, Repr

namespace FailureKind

def list : List FailureKind :=
  [malformedQuery, illegalQuery, compilationFailed, duplicateIdentity, storeUnavailable,
    sourceUnreadable, extractionFailed, malformedPayload, unsupportedMediaType,
    queryExecutionFailed, corruptRecord, invalidRequest, payloadTooLarge, unsupportedVersion]

def name : FailureKind → String
  | malformedQuery => "MalformedQuery"
  | illegalQuery => "IllegalQuery"
  | compilationFailed => "TranslationError"
  | duplicateIdentity => "DuplicateIdentity"
  | storeUnavailable => "StoreUnavailable"
  | sourceUnreadable => "SourceUnreadable"
  | extractionFailed => "ExtractionFailed"
  | malformedPayload => "MalformedPayload"
  | unsupportedMediaType => "UnsupportedMediaType"
  | queryExecutionFailed => "QueryExecutionFailed"
  | corruptRecord => "CorruptRecord"
  | invalidRequest => "InvalidRequest"
  | payloadTooLarge => "PayloadTooLarge"
  | unsupportedVersion => "UnsupportedVersion"

def status : FailureKind → Nat
  | malformedQuery => 400
  | illegalQuery => 400
  | duplicateIdentity => 400
  | sourceUnreadable => 400
  | malformedPayload => 400
  | invalidRequest => 400
  | payloadTooLarge => 413
  | unsupportedMediaType => 415
  | unsupportedVersion => 501
  | compilationFailed => 500
  | storeUnavailable => 500
  | extractionFailed => 500
  | queryExecutionFailed => 500
  | corruptRecord => 500

def isClient (k : FailureKind) : Bool := 400 ≤ k.status && k.status < 500

def ofName? (name : String) : Option FailureKind := list.find? fun k => k.name == name

end FailureKind

inductive Failure where
  | malformedQuery (refusals : List (Dialect × Refusal))
  | illegalQuery (names : List String)
  | compilation (reason : String)
  | duplicateIdentity (id : String)
  | storeUnavailable (context : String) (fault : StoreFault)
  | sourceUnreadable (location : String) (fault : IoFault)
  | extractionFailed (location : String) (fault : ExtractionFault)
  | malformedPayload (reason : String)
  | unsupportedMediaType (expected actual : String)
  | queryExecution (fault : StoreFault)
  | corruptRecord (id : String) (value : Option String) (fault : Option Url.Fault)
  | invalidRequest (reason : String)
  | payloadTooLarge (size limit : Nat)
  | unsupportedVersion (requested supported : String)
  deriving DecidableEq, Repr

namespace Failure

def kind : Failure → FailureKind
  | malformedQuery _ => .malformedQuery
  | illegalQuery _ => .illegalQuery
  | compilation _ => .compilationFailed
  | duplicateIdentity _ => .duplicateIdentity
  | storeUnavailable _ _ => .storeUnavailable
  | sourceUnreadable _ _ => .sourceUnreadable
  | extractionFailed _ _ => .extractionFailed
  | malformedPayload _ => .malformedPayload
  | unsupportedMediaType _ _ => .unsupportedMediaType
  | queryExecution _ => .queryExecutionFailed
  | corruptRecord _ _ _ => .corruptRecord
  | invalidRequest _ => .invalidRequest
  | payloadTooLarge _ _ => .payloadTooLarge
  | unsupportedVersion _ _ => .unsupportedVersion

def message : Failure → String
  | malformedQuery _ => "Invalid CommonQL query string"
  | illegalQuery names =>
    "Unsupported query attributes: \x7b" ++ ", ".intercalate names ++ "\x7d"
  | compilation reason => "Error processing CQL: " ++ reason
  | duplicateIdentity _ => "Dataset already exists. Overwriting is not supported"
  | storeUnavailable context _ => context
  | sourceUnreadable location _ => "Could not read metadata body from " ++ location
  | extractionFailed location _ => "Unable to extract content from " ++ location
  | malformedPayload reason => reason
  | unsupportedMediaType expected actual =>
    "Unsupported media type '" ++ actual ++ "'; expected " ++ expected
  | queryExecution _ => "Error querying index"
  | corruptRecord id value _ =>
    "Invalid locator stored for " ++ id ++ ": " ++ Quoted.reportOption value
  | invalidRequest reason => reason
  | payloadTooLarge size limit =>
    "Payload is " ++ toString size ++ " bytes; the limit is " ++ toString limit ++ " bytes"
  | unsupportedVersion _ _ => "Not implemented"

def causes : Failure → List String
  | storeUnavailable _ fault => fault.message :: fault.causes
  | sourceUnreadable _ fault => fault.text :: fault.causes
  | extractionFailed _ fault => fault.message :: fault.causes
  | queryExecution fault => fault.message :: fault.causes
  | corruptRecord _ _ (some fault) => [fault.message]
  | _ => []

def refusalText (r : Dialect × Refusal) : String := r.1.name ++ ": " ++ r.2.message

/-- What a caller may be told beside the message: why each dialect refuses a query, the version
that is supported, or what lies behind the failure. -/
def detail? : Failure → Option String
  | malformedQuery [] => none
  | malformedQuery refusals => some ("; ".intercalate (refusals.map refusalText))
  | unsupportedVersion requested supported =>
    some ("Accept-Version was " ++ requested ++ ", but only " ++ supported ++
      " is currently supported.")
  | failure =>
    match failure.causes with
    | [] => none
    | causes => some (": ".intercalate causes)

end Failure

end RecordSearch
