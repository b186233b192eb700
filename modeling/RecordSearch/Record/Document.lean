import RecordSearch.Filter.Document
import RecordSearch.Record.Basic

/-!
Records and declarations of attributes as data documents.
-/

namespace RecordSearch

namespace Record

def toTree (r : Record) : Tree :=
  let text (s : Option String) : Tree := (s.map Tree.text).getD .null
  let date (at' : Option Time.Instant) : Tree := (at'.map Tree.ofInstant).getD .null
  .named
    [("id", .text r.id), ("contents", text r.contents), ("sourceLocation", text r.sourceLocation),
      ("metadataLocation", text r.metadataLocation), ("title", text r.title),
      ("countryCode", text r.countryCode), ("createdAt", date r.createdAt),
      ("modifiedAt", date r.modifiedAt), ("mediaType", text r.mediaType)]

def ofTree? (t : Tree) : Option Record := do
  let m ← t.members? true (Attribute.list.map Attribute.name)
  let id ← m.required "id" Tree.asText?
  let contents ← m.optional "contents" Tree.asText?
  let sourceLocation ← m.optional "sourceLocation" Tree.asText?
  let metadataLocation ← m.optional "metadataLocation" Tree.asText?
  let title ← m.optional "title" Tree.asText?
  let countryCode ← m.optional "countryCode" Tree.asText?
  let createdAt ← m.optional "createdAt" Tree.asInstant?
  let modifiedAt ← m.optional "modifiedAt" Tree.asInstant?
  let mediaType ← m.optional "mediaType" Tree.asText?
  return { id, contents, sourceLocation, metadataLocation, title, countryCode, createdAt,
           modifiedAt, mediaType }

end Record

namespace Kind

def ofTree? (places : Bool) (t : Tree) : Option Kind := (t.choice? places).bind ofName?

end Kind

namespace Declaration

/-- A declaration; `places` tells whether its members may be told apart by their places. -/
def ofTree? (places : Bool) (t : Tree) : Option Declaration := do
  let m ← t.members? places ["name", "type", "queryable", "required"]
  let name ← m.required "name" Tree.asText?
  let kind ← m.required "type" (Kind.ofTree? places)
  let queryable ← m.withDefault "queryable" true Tree.asBool?
  let required ← m.withDefault "required" false Tree.asBool?
  return { name, kind, queryable, required }

def listOfTree? (places : Bool) (t : Tree) : Option (List Declaration) := do
  let m ← t.members? places ["attributes"]
  m.required "attributes" (Tree.asList? (ofTree? places))

end Declaration

end RecordSearch
