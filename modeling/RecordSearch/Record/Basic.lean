import RecordSearch.Registry
import RecordSearch.Text.Blank
import RecordSearch.Time.Instant

/-!
Records: what is kept of a document.
-/

namespace RecordSearch

open RecordSearch.Time (Instant)

inductive RecordFault where
  | emptyIdentity
  | unknownAttribute (name : String)
  | wrongValueType (name given : String)
  | missingRequired (id : String) (names : List String)
  deriving DecidableEq, Repr

def RecordFault.message : RecordFault → String
  | emptyIdentity => "record identity must not be empty"
  | unknownAttribute name => "unknown record attribute '" ++ name ++ "'"
  | wrongValueType name given => "attribute '" ++ name ++ "' holds a " ++ given ++ " value"
  | missingRequired id names =>
    "record '" ++ id ++ "' is missing required attributes: " ++ Text.Quoted.reportList names

inductive Value where
  | text (s : String)
  | date (at' : Instant)
  deriving DecidableEq, Repr

structure Record where
  id : String
  contents : Option String := none
  sourceLocation : Option String := none
  metadataLocation : Option String := none
  title : Option String := none
  countryCode : Option String := none
  createdAt : Option Instant := none
  modifiedAt : Option Instant := none
  mediaType : Option String := none
  deriving DecidableEq, Repr

namespace Record

def value (r : Record) : Attribute → Option Value
  | .id => some (.text r.id)
  | .contents => r.contents.map .text
  | .sourceLocation => r.sourceLocation.map .text
  | .metadataLocation => r.metadataLocation.map .text
  | .title => r.title.map .text
  | .countryCode => r.countryCode.map .text
  | .createdAt => r.createdAt.map .date
  | .modifiedAt => r.modifiedAt.map .date
  | .mediaType => r.mediaType.map .text

def text? (r : Record) (a : Attribute) : Option String :=
  match r.value a with
  | some (.text s) => some s
  | _ => none

def valueNamed (r : Record) (name : String) : Option Value :=
  (Attribute.ofName? name).bind r.value

def textNamed (r : Record) (name : String) : Option String :=
  (Attribute.ofName? name).bind r.text?

def lacking (registry : Registry) (r : Record) : List String :=
  (registry.requiredAttributes.filter fun a => (r.value a).isNone).map Attribute.name

/-- What keeps a record from being complete: a blank identity, or required attributes without a
value. -/
def fault? (registry : Registry) (r : Record) : Option RecordFault :=
  if Text.allBlank r.id then some .emptyIdentity
  else
    match r.lacking registry with
    | [] => none
    | names => some (.missingRequired r.id names)

def finish (registry : Registry) (r : Record) : Except RecordFault Record :=
  match r.fault? registry with
  | some fault => .error fault
  | none => .ok r

end Record

end RecordSearch
