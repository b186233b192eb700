import RecordSearch.Store.Transaction

/-!
What the services need of a store, and stores that fail in a step of a call or in a whole call.
-/

namespace RecordSearch

structure Repository (σ : Type) where
  holds : String → Action σ Bool
  save : Record → Action σ Unit
  find : String → Action σ (Option Record)
  delete : String → Action σ Bool
  purge : Action σ Unit
  count : Action σ Nat
  query : Query → Action σ (List Record)

def Store.repository : Repository Store where
  holds := Store.holds
  save := Store.save
  find := Store.find
  delete := Store.delete
  purge := Store.purge
  count := Store.count
  query := Store.query

/-- What fails in each call of a store. -/
structure Troubles where
  holds : Mishaps := {}
  save : Mishaps := {}
  find : Mishaps := {}
  delete : Mishaps := {}
  purge : Mishaps := {}
  count : Mishaps := {}
  query : Mishaps := {}

def Transaction.repository (m : Troubles) : Repository Transaction where
  holds := holds m.holds
  save := save m.save
  find := find m.find
  delete := delete m.delete
  purge := purge m.purge
  count := count m.count
  query := query m.query

/-- An answer that a store gives in place of looking for a record. -/
inductive Lookup where
  | fails (fault : StoreFault)
  /-- Every record seems to be absent. -/
  | absent
  deriving DecidableEq, Repr

/-- The calls of a store that do not reach it. -/
structure Faults where
  holds : Option Lookup := none
  save : Option StoreFault := none
  find : Option StoreFault := none
  query : Option StoreFault := none
  delete : Option StoreFault := none
  count : Option StoreFault := none
  deriving DecidableEq, Repr

/-- An action, or a fault in its place. -/
def Action.orFault {σ α : Type} (action : Action σ α) : Option StoreFault → Action σ α
  | some fault => fun s => (.error fault, s)
  | none => action

/-- A store some of whose calls fail. Removing all records fails like removing one. -/
def Repository.withFaults {σ : Type} (store : Repository σ) (faults : Faults) : Repository σ where
  holds id :=
    match faults.holds with
    | some (.fails fault) => fun s => (.error fault, s)
    | some .absent => fun s => (.ok false, s)
    | none => store.holds id
  save r := (store.save r).orFault faults.save
  find id := (store.find id).orFault faults.find
  delete id := (store.delete id).orFault faults.delete
  purge := store.purge.orFault faults.delete
  count := store.count.orFault faults.count
  query q := (store.query q).orFault faults.query

end RecordSearch
