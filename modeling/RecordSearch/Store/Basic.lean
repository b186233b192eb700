import RecordSearch.Query.Basic

/-!
The store: an index and a handle on it.

An `Index` is what all handles on it share.  A handle reads from a snapshot, and every operation
takes a new one before it reads and after it has written.
-/

namespace RecordSearch

inductive StoreFault where
  | duplicateKey (id : String)
  | readOnly
  | poisoned
  | invalidDocument (fault : RecordFault)
  | missingField (name : String)
  /-- The index itself failed. -/
  | engine (text : String)
  | io (text : String)
  deriving DecidableEq, Repr

namespace StoreFault

def message : StoreFault → String
  | duplicateKey id => "a record with id '" ++ id ++ "' already exists"
  | readOnly => "index is open in read-only mode"
  | poisoned => "index writer lock is poisoned"
  | invalidDocument fault => "stored document is invalid: " ++ fault.message
  | missingField name => "index schema has no field '" ++ name ++ "'"
  | engine text => text
  | io text => text

def causes : StoreFault → List String
  | invalidDocument fault => [fault.message]
  | _ => []

end StoreFault

/-- What handles on one index share: its layout, and the records in the order of their saving. -/
structure Index where
  layout : List (Attribute × Kind)
  records : List Stored
  deriving DecidableEq, Repr

structure Handle where
  registry : Registry
  writable : Bool
  /-- The records that this handle sees. -/
  snapshot : List Stored

structure Store where
  index : Index
  handle : Handle

/-- An operation on a state that may fail; a failure too leaves a state behind. -/
abbrev Action (σ α : Type) := σ → Except StoreFault α × σ

namespace Action

variable {σ α β : Type}

/-- An action after which the next one goes on, unless it fails. -/
def andThen (action : Action σ α) (next : α → Action σ β) : Action σ β := fun s =>
  match action s with
  | (.ok a, s) => next a s
  | (.error fault, s) => (.error fault, s)

def fail (fault : StoreFault) : Action σ α := fun s => (.error fault, s)

variable {action : Action σ α} {s s' : σ}

theorem andThen_of_ok {a : α} (done : action s = (.ok a, s')) (next : α → Action σ β) :
    action.andThen next s = next a s' := by
  rw [andThen, done]

theorem andThen_of_error {fault : StoreFault} (failed : action s = (.error fault, s'))
    (next : α → Action σ β) : action.andThen next s = (.error fault, s') := by
  rw [andThen, failed]

end Action

namespace Index

def empty (registry : Registry) : Index := ⟨registry.layout, []⟩

end Index

namespace Handle

/-- What a query matches is decided by the kinds that the registry declares. -/
def sees (h : Handle) (q : Query) (d : Stored) : Bool := q.matches' h.registry.kind d

def withIdentity (h : Handle) (id : String) : List Stored :=
  h.snapshot.filter (h.sees (.term .id id))

/-- A stored record as the handle hands it out, if its registry finds it complete. -/
def load (h : Handle) (d : Stored) : Except StoreFault Record :=
  match d.toRecord h.registry with
  | .ok r => .ok r
  | .error fault => .error (.invalidDocument fault)

end Handle

namespace Store

def inMemory (registry : Registry) : Store := ⟨.empty registry, ⟨registry, true, []⟩⟩

def reload (s : Store) : Store := { s with handle := { s.handle with snapshot := s.index.records } }

def commit (s : Store) (records : List Stored) : Store :=
  reload { s with index := { s.index with records := records } }

end Store

end RecordSearch
