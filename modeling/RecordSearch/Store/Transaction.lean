import RecordSearch.Store.Basic

/-!
What a store is asked, step by step.

A write goes into a transaction, and a commit publishes it.  Each step may fail.  What a step leaves
in the transaction when it fails is not known, so it is taken back: nothing partial is published.
The last step of a write looks at what was published.  By then there is nothing to take back.
-/

namespace RecordSearch

/-- A step of a transaction that fails, with the records that it would leave to be published. -/
structure Mishap where
  text : String
  draft : List Stored

structure Mishaps where
  /-- Another thread died while it wrote. -/
  poisoned : Bool := false
  /-- The look at what is published, before the question. -/
  reload : Option String := none
  search : Option String := none
  fetch : Stored → Option String := fun _ => none
  write : Option Mishap := none
  commit : Option Mishap := none
  /-- What is left to be published when it cannot be taken back. -/
  rollback : Option (List Stored) := none
  /-- The look at what was published, behind a commit. -/
  refresh : Option String := none

/-- A store, and its records as the next commit will publish them. -/
structure Transaction where
  store : Store
  draft : List Stored

/-- A store where nothing waits to be published. -/
def Store.transaction (s : Store) : Transaction := ⟨s, s.index.records⟩

namespace Transaction

/-! Steps -/

/-- A handle that could not lock its index refuses every write. -/
def lock (m : Mishaps) : Action Transaction Unit := fun t =>
  if t.store.handle.writable then
    if m.poisoned then (.error .poisoned, t) else (.ok (), t)
  else (.error .readOnly, t)

def reload (mishap : Option String) : Action Transaction Unit := fun t =>
  match mishap with
  | some text => (.error (.engine text), t)
  | none => (.ok (), { t with store := t.store.reload })

def search (m : Mishaps) (q : Query) : Action Transaction (List Stored) := fun t =>
  match m.search with
  | some text => (.error (.engine text), t)
  | none => (.ok (t.store.handle.snapshot.filter (t.store.handle.sees q)), t)

def fetch (m : Mishaps) (h : Handle) (d : Stored) : Except StoreFault Record :=
  match m.fetch d with
  | some text => .error (.engine text)
  | none => h.load d

def rollback (m : Mishaps) (t : Transaction) : Transaction :=
  { t with draft := m.rollback.getD t.store.index.records }

/-- A step that may leave anything to be published when it fails. -/
def risky (mishap : Option Mishap) (change : Transaction → Transaction) : Action Transaction Unit :=
  fun t =>
    match mishap with
    | some mishap => (.error (.engine mishap.text), { t with draft := mishap.draft })
    | none => (.ok (), change t)

def orRollback {α : Type} (m : Mishaps) (action : Action Transaction α) : Action Transaction α :=
  fun t =>
    match action t with
    | (.ok a, t) => (.ok a, t)
    | (.error fault, t) => (.error fault, t.rollback m)

def publish (t : Transaction) : Transaction :=
  { t with store := { t.store with index := { t.store.index with records := t.draft } } }

def commit (m : Mishaps) : Action Transaction Unit :=
  (orRollback m (risky m.commit publish)).andThen fun _ => reload m.refresh

/-! Questions and writes -/

/-- The records with an identity. -/
def lookUp (m : Mishaps) (id : String) : Action Transaction (List Stored) :=
  (reload m.reload).andThen fun _ => search m (.term .id id)

/-- Whether there is a record with an identity. -/
def holds (m : Mishaps) (id : String) : Action Transaction Bool :=
  (lookUp m id).andThen fun found t => (.ok !found.isEmpty, t)

/-- Adds a record, unless there is one with its identity. -/
def save (m : Mishaps) (r : Record) : Action Transaction Unit :=
  (lock m).andThen fun _ => (lookUp m r.id).andThen fun found =>
    if found.isEmpty then
      (orRollback m (risky m.write fun t =>
        { t with draft := t.draft ++ [.ofRecord t.store.handle.registry r] })).andThen
      fun _ => commit m
    else .fail (.duplicateKey r.id)

/-- The record with an identity. -/
def find (m : Mishaps) (id : String) : Action Transaction (Option Record) :=
  (lookUp m id).andThen fun found t =>
    match found with
    | [] => (.ok none, t)
    | d :: _ => (some <$> fetch m t.store.handle d, t)

/-- Removes the record with an identity, and tells whether there was one. -/
def delete (m : Mishaps) (id : String) : Action Transaction Bool :=
  (lock m).andThen fun _ => (lookUp m id).andThen fun found t =>
    if found.isEmpty then (.ok false, t)
    else
      (commit m).andThen (fun _ t => (.ok true, t))
        { t with draft := t.draft.filter fun d => !t.store.handle.sees (.term .id id) d }

/-- Removes all records. What a failure leaves to be published is not taken back here. -/
def purge (m : Mishaps) : Action Transaction Unit :=
  (lock m).andThen fun _ =>
    (risky m.write fun t => { t with draft := [] }).andThen fun _ => commit m

def count (m : Mishaps) : Action Transaction Nat :=
  (reload m.reload).andThen fun _ t => (.ok t.store.handle.snapshot.length, t)

/-- The records that a query matches; there cannot be more than the store has. -/
def query (m : Mishaps) (q : Query) : Action Transaction (List Record) :=
  (reload m.reload).andThen fun _ => (search m q).andThen fun hits t =>
    ((hits.take (max 1 t.store.handle.snapshot.length)).mapM (fetch m t.store.handle), t)

theorem lock_of_not_writable {t : Transaction} (locked : t.store.handle.writable = false)
    (m : Mishaps) : lock m t = (.error .readOnly, t) := by
  rw [lock, if_neg (Bool.eq_false_iff.mp locked)]

theorem lock_of_writable {t : Transaction} (writable : t.store.handle.writable = true)
    (m : Mishaps) :
    lock m t = if m.poisoned then (.error .poisoned, t) else (.ok (), t) := by
  rw [lock, if_pos writable]

end Transaction

/-! Stores in which nothing fails -/

namespace Store

/-- What comes of an action on a store where nothing waits to be published. -/
def act {α : Type} (action : Action Transaction α) : Action Store α := fun s =>
  let (result, t) := action s.transaction
  (result, t.store)

def holds (id : String) : Action Store Bool := act (Transaction.holds {} id)

def save (r : Record) : Action Store Unit := act (Transaction.save {} r)

def find (id : String) : Action Store (Option Record) := act (Transaction.find {} id)

def delete (id : String) : Action Store Bool := act (Transaction.delete {} id)

def purge : Action Store Unit := act (Transaction.purge {})

def count : Action Store Nat := act (Transaction.count {})

def query (q : Query) : Action Store (List Record) := act (Transaction.query {} q)

theorem holds_eq (id : String) (s : Store) :
    holds id s = (.ok !(s.reload.handle.withIdentity id).isEmpty, s.reload) := rfl

theorem save_eq (r : Record) (s : Store) :
    save r s =
      if s.handle.writable then
        if (s.reload.handle.withIdentity r.id).isEmpty then
          (.ok (), s.commit (s.index.records ++ [.ofRecord s.handle.registry r]))
        else (.error (.duplicateKey r.id), s.reload)
      else (.error .readOnly, s) := by
  have found : Transaction.lookUp {} r.id s.transaction =
      (.ok (s.reload.handle.withIdentity r.id), s.reload.transaction) := rfl
  cases writable : s.handle.writable with
  | false =>
      have locked := Transaction.lock_of_not_writable (t := s.transaction) writable {}
      rw [save, act, Transaction.save, Action.andThen_of_error locked]
      rfl
  | true =>
      have locked := Transaction.lock_of_writable (t := s.transaction) writable {}
      rw [save, act, Transaction.save, Action.andThen_of_ok locked, Action.andThen_of_ok found,
        if_pos rfl]
      cases (s.reload.handle.withIdentity r.id).isEmpty <;> rfl

theorem find_eq (id : String) (s : Store) :
    find id s =
      ((s.reload.handle.withIdentity id).head?.elim (.ok none) fun d =>
        some <$> s.reload.handle.load d, s.reload) := by
  have found : Transaction.lookUp {} id s.transaction =
      (.ok (s.reload.handle.withIdentity id), s.reload.transaction) := rfl
  rw [find, act, Transaction.find, Action.andThen_of_ok found]
  cases s.reload.handle.withIdentity id <;> rfl

theorem delete_eq (id : String) (s : Store) :
    delete id s =
      if s.handle.writable then
        if (s.reload.handle.withIdentity id).isEmpty then (.ok false, s.reload)
        else
          (.ok true, s.commit (s.index.records.filter fun d => !s.handle.sees (.term .id id) d))
      else (.error .readOnly, s) := by
  have found : Transaction.lookUp {} id s.transaction =
      (.ok (s.reload.handle.withIdentity id), s.reload.transaction) := rfl
  cases writable : s.handle.writable with
  | false =>
      have locked := Transaction.lock_of_not_writable (t := s.transaction) writable {}
      rw [delete, act, Transaction.delete, Action.andThen_of_error locked]
      rfl
  | true =>
      have locked := Transaction.lock_of_writable (t := s.transaction) writable {}
      rw [delete, act, Transaction.delete, Action.andThen_of_ok locked, Action.andThen_of_ok found,
        if_pos rfl]
      cases (s.reload.handle.withIdentity id).isEmpty <;> rfl

theorem purge_eq (s : Store) :
    purge s = if s.handle.writable then (.ok (), s.commit []) else (.error .readOnly, s) := by
  cases writable : s.handle.writable with
  | false =>
      have locked := Transaction.lock_of_not_writable (t := s.transaction) writable {}
      rw [purge, act, Transaction.purge, Action.andThen_of_error locked]
      rfl
  | true =>
      have locked := Transaction.lock_of_writable (t := s.transaction) writable {}
      rw [purge, act, Transaction.purge, Action.andThen_of_ok locked]
      rfl

theorem count_eq (s : Store) : count s = (.ok s.reload.handle.snapshot.length, s.reload) := rfl

theorem query_eq (q : Query) (s : Store) :
    query q s =
      (((s.reload.handle.snapshot.filter (s.reload.handle.sees q)).take
        (max 1 s.reload.handle.snapshot.length)).mapM s.reload.handle.load, s.reload) := rfl

end Store

end RecordSearch
