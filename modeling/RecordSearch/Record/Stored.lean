import RecordSearch.Record.Draft

/-!
Records as an index keeps them.

An index has a field for each attribute.  Texts are kept as they are and dates in whole seconds.  A
record is made of its fields by the steps that make any record, in the order of the registry.

An index has words of 64 bits for its dates, and a word counts nanoseconds.  Seconds stand for the
words here, which is exact for the dates that such a word can tell and for no others.
-/

namespace RecordSearch

open RecordSearch.Time (Instant)

namespace Time.Instant

/-- The word in which an index has the second of a moment. -/
def word (at' : Instant) : Int64 := .ofInt (at'.seconds * 1000000000)

end Time.Instant

inductive Field where
  | text (s : String)
  /-- The second of a date, which is to be `Indexable`. -/
  | date (seconds : Int)
  deriving DecidableEq, Repr

def Field.ofValue : Value → Field
  | .text s => .text s
  | .date at' => .date at'.seconds

structure Stored where
  fields : List (Attribute × Field)
  deriving DecidableEq, Repr

namespace Stored

/-- A record as an index with the layout of a registry keeps it. -/
def ofRecord (registry : Registry) (r : Record) : Stored :=
  ⟨registry.order.filterMap fun a => (r.value a).map fun v => (a, Field.ofValue v)⟩

/-- What the field of an attribute holds. -/
def field? (d : Stored) (a : Attribute) : Option Field := d.fields.lookup a

/-- The text in the field of an attribute. -/
def text? (d : Stored) (a : Attribute) : Option String :=
  match d.field? a with
  | some (.text s) => some s
  | _ => none

/-- The date in the field of an attribute. -/
def seconds? (d : Stored) (a : Attribute) : Option Int :=
  match d.field? a with
  | some (.date seconds) => some seconds
  | _ => none

/-- Takes over the field of an attribute, unless it holds nothing of the attribute's kind. -/
def restore (registry : Registry) (d : Stored) (r : Record) (a : Attribute) :
    Except RecordFault Record :=
  match registry.kind a with
  | .date =>
    match d.seconds? a with
    | some seconds => r.setDate a.name (Instant.ofSeconds seconds)
    | none => .ok r
  | _ =>
    match d.text? a with
    | some s => r.setText a.name s
    | none => .ok r

def toRecord (registry : Registry) (d : Stored) : Except RecordFault Record :=
  match registry.order.foldlM (restore registry d) (Record.blank "") with
  | .ok r => r.finish registry
  | .error fault => .error fault

end Stored

end RecordSearch
