import RecordSearch.Files.Basic
import RecordSearch.Text.Blank

/-!
Plain text from the bytes of a document.
-/

namespace RecordSearch

open RecordSearch.Text

inductive Overflow where
  | truncate
  | reject
  deriving DecidableEq, Repr

def Overflow.name : Overflow → String
  | truncate => "truncate"
  | reject => "reject"

def Overflow.ofName? : String → Option Overflow
  | "truncate" => some truncate
  | "reject" => some reject
  | _ => none

structure ExtractorConfig where
  /-- The greatest number of characters, if there is one. -/
  maxLength : Option Nat := none
  overflow : Overflow := .truncate
  deriving DecidableEq, Repr

inductive ExtractionFault where
  | io (fault : IoFault)
  | encoding (fault : Utf8.Fault)
  | unsupportedType (mediaType : String)
  | tooLong (limit : Nat)
  deriving DecidableEq, Repr

namespace ExtractionFault

def message : ExtractionFault → String
  | io _ => "could not read content stream"
  | encoding _ => "content is not valid UTF-8"
  | unsupportedType mediaType => "media type '" ++ mediaType ++ "' is not supported"
  | tooLong limit =>
    "content exceeds the maximum length of " ++ toString limit ++ " characters"

def causes : ExtractionFault → List String
  | io fault => fault.text :: fault.causes
  | encoding fault => [fault.message]
  | _ => []

end ExtractionFault

namespace MediaType

/-- A media type without parameters, in lower case. -/
def essence (mediaType : String) : String :=
  asciiLowerText (trim (String.ofList (mediaType.toList.takeWhile (· != ';'))))

/-- Whether documents of a media type are text; a document without one is taken to be text. -/
def isTextual : Option String → Bool
  | none => true
  | some mediaType =>
    let e := essence mediaType
    "text/".toList.isPrefixOf e.toList || e == "application/json" || e == "application/xml"

def textual : String := "text/*, application/json or application/xml"

end MediaType

namespace Extraction

def byteOrderMark : Char := '\uFEFF'

def withoutMark : List Char → List Char
  | c :: rest => if c = byteOrderMark then rest else c :: rest
  | [] => []

def bound (config : ExtractorConfig) (s : List Char) : Except ExtractionFault (List Char) :=
  match config.maxLength with
  | none => .ok s
  | some limit =>
    if s.length ≤ limit then .ok s
    else
      match config.overflow with
      | .reject => .error (.tooLong limit)
      | .truncate => .ok (s.take limit)

def extract (config : ExtractorConfig) (mediaType : Option String) (content : Content) :
    Except ExtractionFault String :=
  if MediaType.isTextual mediaType then
    match content with
    | .error fault => .error (.io fault)
    | .ok bytes =>
      match Utf8.decode bytes with
      | .error fault => .error (.encoding fault)
      | .ok s => String.ofList <$> bound config (withoutMark s)
  else .error (.unsupportedType (mediaType.getD ""))

end Extraction

end RecordSearch
