import RecordSearch.Record.Basic

/-!
Steps that fill in a record, one attribute at a time.
-/

namespace RecordSearch

open RecordSearch.Time (Instant)

namespace Record

def blank (id : String) : Record := { id := id }

/-- Both dates at one moment, without its fraction. -/
def stamp (at' : Instant) (r : Record) : Record :=
  { r with createdAt := some at'.dropFraction, modifiedAt := some at'.dropFraction }

def setText (name value : String) (r : Record) : Except RecordFault Record :=
  match Attribute.ofName? name with
  | none => .error (.unknownAttribute name)
  | some .id => .ok { r with id := value }
  | some .contents => .ok { r with contents := some value }
  | some .sourceLocation => .ok { r with sourceLocation := some value }
  | some .metadataLocation => .ok { r with metadataLocation := some value }
  | some .title => .ok { r with title := some value }
  | some .countryCode => .ok { r with countryCode := some value }
  | some .mediaType => .ok { r with mediaType := some value }
  | some .createdAt => .error (.wrongValueType name "text")
  | some .modifiedAt => .error (.wrongValueType name "text")

def setDate (name : String) (value : Instant) (r : Record) : Except RecordFault Record :=
  match Attribute.ofName? name with
  | none => .error (.unknownAttribute name)
  | some .createdAt => .ok { r with createdAt := some value }
  | some .modifiedAt => .ok { r with modifiedAt := some value }
  | some _ => .error (.wrongValueType name "date")

/-- One step in the making of a record. Locations are given as the texts of URLs. -/
inductive Step where
  | contents (value : String)
  | sourceLocation (value : String)
  | metadataLocation (value : String)
  | title (value : Option String)
  | countryCode (value : String)
  | mediaType (value : Option String)
  | timestamps (at' : Instant)
  | text (name value : String)
  | date (name : String) (value : Instant)
  deriving DecidableEq, Repr

namespace Step

def apply (r : Record) : Step → Except RecordFault Record
  | contents value => .ok { r with contents := some value }
  | sourceLocation value => .ok { r with sourceLocation := some value }
  | metadataLocation value => .ok { r with metadataLocation := some value }
  | title value => .ok { r with title := value }
  | countryCode value => .ok { r with countryCode := some value }
  | mediaType value => .ok { r with mediaType := value }
  | timestamps at' => .ok (r.stamp at')
  | text name value => r.setText name value
  | date name value => r.setDate name value

def applyOrKeep (r : Record) (step : Step) : Record :=
  match step.apply r with
  | .ok r => r
  | .error _ => r

end Step

def ofSteps (id : String) (steps : List Step) : Record :=
  steps.foldl Step.applyOrKeep (blank id)

end Record

end RecordSearch
