import RecordSearch.Data.Tree
import RecordSearch.Service.Failure

/-!
HTTP answers.
-/

namespace RecordSearch.Http

structure Answer where
  status : Nat
  body : Option Tree

namespace Answer

def mediaType? (a : Answer) : Option String := a.body.map fun _ => "application/json"

def document (t : Tree) : Answer := ⟨200, some t⟩

def done : Answer := ⟨200, none⟩

def notFound : Answer := ⟨404, none⟩

/-- What lies behind a failure is told to callers who are at fault or ask for too much, not when a
service fails. -/
def detail? (f : Failure) : Option String :=
  if f.kind.isClient || f.kind = .unsupportedVersion then f.detail? else none

def ofFailure (f : Failure) : Answer :=
  let detail : List (String × Tree) :=
    match detail? f with
    | some detail => [("detail", .text detail)]
    | none => []
  ⟨f.kind.status,
    some (.named ([("error", .text f.message), ("error_type", .text f.kind.name)] ++ detail))⟩

end Answer

end RecordSearch.Http
