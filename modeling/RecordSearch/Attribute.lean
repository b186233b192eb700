/-!
The attributes of a record and the kinds of values they may hold.
-/

namespace RecordSearch

inductive Kind where
  /-- Prose, found by its words. -/
  | text
  /-- One exact value. -/
  | keyword
  | date
  deriving DecidableEq, Repr

namespace Kind

def name : Kind → String
  | text => "text"
  | keyword => "string"
  | date => "date"

def ofName? : String → Option Kind
  | "text" => some text
  | "string" => some keyword
  | "date" => some date
  | _ => none

end Kind

inductive Attribute where
  | id
  | contents
  | sourceLocation
  | metadataLocation
  | title
  | countryCode
  | createdAt
  | modifiedAt
  | mediaType
  deriving DecidableEq, Repr

namespace Attribute

def list : List Attribute :=
  [id, contents, sourceLocation, metadataLocation, title, countryCode, createdAt, modifiedAt,
    mediaType]

def byName : List Attribute :=
  [contents, countryCode, createdAt, id, mediaType, metadataLocation, modifiedAt, sourceLocation,
    title]

def name : Attribute → String
  | id => "id"
  | contents => "contents"
  | sourceLocation => "sourceLocation"
  | metadataLocation => "metadataLocation"
  | title => "title"
  | countryCode => "countryCode"
  | createdAt => "createdAt"
  | modifiedAt => "modifiedAt"
  | mediaType => "mediaType"

def ofName? (s : String) : Option Attribute := list.find? fun a => a.name == s

def isDate : Attribute → Bool
  | createdAt => true
  | modifiedAt => true
  | _ => false

def standardKind : Attribute → Kind
  | contents => .text
  | title => .text
  | createdAt => .date
  | modifiedAt => .date
  | _ => .keyword

theorem mem_list (a : Attribute) : a ∈ list := by cases a <;> decide

theorem mem_byName (a : Attribute) : a ∈ byName := by cases a <;> decide

theorem ofName?_name (a : Attribute) : ofName? a.name = some a := by cases a <;> rfl

theorem name_injective {a b : Attribute} (same : a.name = b.name) : a = b :=
  Option.some.inj (a.ofName?_name.symm.trans (same ▸ b.ofName?_name))

theorem name_of_ofName? {s : String} {a : Attribute} (found : ofName? s = some a) :
    a.name = s := by
  simpa using List.find?_some found

end Attribute

end RecordSearch
