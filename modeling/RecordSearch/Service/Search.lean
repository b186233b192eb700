import RecordSearch.Service.Preparation
import RecordSearch.Store.Repository

/-!
Searching: from the text of a query to the locators of the records it finds.
-/

namespace RecordSearch

open RecordSearch.Text

inductive Locator where
  /-- At an address that ends with the record's identity. -/
  | retrieve (base : String)
  /-- At the URL under one of the record's attributes. -/
  | stored (name : String)
  deriving DecidableEq, Repr

namespace Locator

def standard : Locator := retrieve "http://localhost:8080/api/v1/retrieve/"

def locate (l : Locator) (r : Record) : Except Failure Url :=
  let value : Option String :=
    match l with
    | retrieve base => some (base ++ r.id)
    | stored name => r.textNamed name
  match value with
  | none => .error (.corruptRecord r.id none none)
  | some value =>
    match Url.parse value with
    | .ok url => .ok url
    | .error fault => .error (.corruptRecord r.id (some value) (some fault))

end Locator

namespace Search

variable {σ : Type}

/-- The records that a query finds. -/
def records (registry : Registry) (store : Repository σ) (q : String) (s : σ) :
    Except Failure (List Record) × σ :=
  match PreparedQuery.ofText registry q with
  | .error failure => (.error failure, s)
  | .ok prepared =>
    match store.query prepared.query s with
    | (.ok hits, s) => (.ok hits, s)
    | (.error fault, s) => (.error (.queryExecution fault), s)

/-- The set of the locators of all records, if each of them has one. -/
def locators (l : Locator) (hits : List Record) : Except Failure (List String) := do
  let urls ← hits.mapM l.locate
  return textSet (urls.map Url.text)

/-- The locators of the records that a query finds. -/
def find (registry : Registry) (store : Repository σ) (l : Locator) (q : String) (s : σ) :
    Except Failure (List String) × σ :=
  let (hits, s) := records registry store q s
  (hits.bind (locators l), s)

end Search

end RecordSearch
