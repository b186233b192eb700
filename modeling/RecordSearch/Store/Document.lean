import RecordSearch.Record.Document
import RecordSearch.Store.Basic

/-!
Indexes as data documents.
-/

namespace RecordSearch

namespace Field

def toTree : Field → Tree
  | text s => .text s
  | date seconds => .int seconds

def ofTree? : Tree → Option Field
  | .text s => some (text s)
  | .int seconds => some (date seconds)
  | _ => none

end Field

namespace Stored

def toTree (d : Stored) : Tree := .named (d.fields.map fun e => (e.1.name, e.2.toTree))

def entryOfTree? (e : Option String × Tree) : Option (Attribute × Field) := do
  let a ← e.1.bind Attribute.ofName?
  let field ← Field.ofTree? e.2
  return (a, field)

def ofTree? : Tree → Option Stored
  | .record entries => Stored.mk <$> entries.mapM entryOfTree?
  | _ => none

end Stored

namespace Index

def toTree (index : Index) : Tree :=
  .named
    [("layout", .list (index.layout.map fun e => .list [.text e.1.name, .text e.2.name])),
      ("records", .list (index.records.map Stored.toTree))]

def fieldOfTree? : Tree → Option (Attribute × Kind)
  | .list [name, kind] => do
    let a ← name.asText?.bind Attribute.ofName?
    let k ← kind.asText?.bind Kind.ofName?
    return (a, k)
  | _ => none

def ofTree? (t : Tree) : Option Index := do
  let m ← t.members? false ["layout", "records"]
  let layout ← m.required "layout" (Tree.asList? fieldOfTree?)
  let records ← m.required "records" (Tree.asList? Stored.ofTree?)
  return { layout, records }

end Index

end RecordSearch
