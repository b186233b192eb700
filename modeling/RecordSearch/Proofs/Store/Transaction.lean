import RecordSearch.Store.Transaction

/-!
# Writes whose steps fail

A write fails before anything is published, and then the records are what they were, or it is done.
After that it fails in one way: the handle cannot look at what was published.  So a failure may be
reported of a write that was done.
-/

namespace RecordSearch

namespace Mishaps

def lockFault? (m : Mishaps) (h : Handle) : Option StoreFault :=
  if h.writable = false then some .readOnly else if m.poisoned then some .poisoned else none

def lookFault? (m : Mishaps) : Option StoreFault := (m.reload.or m.search).map .engine

def writeFault? (m : Mishaps) : Option StoreFault :=
  (m.write.or m.commit).map fun mishap => .engine mishap.text

def saveFault? (m : Mishaps) (r : Record) (s : Store) : Option StoreFault :=
  (m.lockFault? s.handle).or <| m.lookFault?.or <|
    if (s.reload.handle.withIdentity r.id).isEmpty then m.writeFault?
    else some (.duplicateKey r.id)

end Mishaps

namespace Transaction

variable {m : Mishaps} {s : Store} {t : Transaction}

/-- A store that keeps what it kept, and where nothing waits to be published unless it could not be
taken back. -/
structure Untouched (m : Mishaps) (s : Store) (t : Transaction) : Prop where
  same : t.store = s ∨ t.store = s.reload
  settled : m.rollback = none → t.draft = s.index.records

/-- What a write comes to once it has published records. -/
def published {α : Type} (m : Mishaps) (s : Store) (records : List Stored) (a : α) :
    Except StoreFault α × Transaction :=
  match m.refresh with
  | some text =>
      (.error (.engine text), { s with index := { s.index with records := records } }.transaction)
  | none => (.ok a, (s.commit records).transaction)

theorem Untouched.of_eq (same : t = s.transaction ∨ t = s.reload.transaction) :
    Untouched m s t := by
  rcases same with rfl | rfl
  · exact ⟨.inl rfl, fun _ => rfl⟩
  · exact ⟨.inr rfl, fun _ => rfl⟩

theorem Untouched.rollback (m : Mishaps) (s : Store) (draft : List Stored) :
    Untouched m s (Transaction.rollback m ⟨s, draft⟩) where
  same := .inl rfl
  settled whole := by
    rw [Transaction.rollback, whole]
    rfl

theorem Untouched.of_reload (untouched : Untouched m s.reload t) : Untouched m s t where
  same := .inr (untouched.same.elim id id)
  settled := untouched.settled

section Published

variable {α : Type} (m : Mishaps) (s : Store) (records : List Stored) (a : α)

theorem index_published :
    (published m s records a).2.store.index = (s.commit records).index := by
  unfold published
  cases m.refresh <;> rfl

theorem registry_published :
    (published m s records a).2.store.handle.registry = s.handle.registry := by
  unfold published
  cases m.refresh <;> rfl

theorem draft_published : (published m s records a).2.draft = records := by
  unfold published
  cases m.refresh <;> rfl

end Published

theorem Untouched.index_eq (untouched : Untouched m s t) : t.store.index = s.index := by
  rcases untouched.same with same | same <;> rw [same]
  rfl

theorem lock_eq (m : Mishaps) (s : Store) :
    lock m s.transaction =
      ((m.lockFault? s.handle).elim (.ok ()) .error, s.transaction) := by
  cases writable : s.handle.writable with
  | false =>
      rw [lock_of_not_writable (t := s.transaction) writable, Mishaps.lockFault?, if_pos writable]
      rfl
  | true =>
      rw [lock_of_writable (t := s.transaction) writable, Mishaps.lockFault?, writable]
      cases m.poisoned <;> rfl

theorem lookUp_cases (m : Mishaps) (id : String) (s : Store) :
    (∃ fault t, m.lookFault? = some fault ∧ lookUp m id s.transaction = (.error fault, t) ∧
      (t = s.transaction ∨ t = s.reload.transaction)) ∨
    (m.lookFault? = none ∧
      lookUp m id s.transaction =
        (.ok (s.reload.handle.withIdentity id), s.reload.transaction)) := by
  cases reload : m.reload with
  | some text =>
      have failed : Transaction.reload m.reload s.transaction =
          (.error (.engine text), s.transaction) := by rw [reload, Transaction.reload]
      left
      refine ⟨.engine text, s.transaction, ?_, ?_, .inl rfl⟩
      · rw [Mishaps.lookFault?, reload, Option.some_or, Option.map_some]
      · rw [lookUp, Action.andThen_of_error failed]
  | none =>
  have reloaded : Transaction.reload m.reload s.transaction =
      (.ok (), s.reload.transaction) := by
    rw [reload]
    rfl
  rw [Mishaps.lookFault?, reload, Option.none_or, lookUp, Action.andThen_of_ok reloaded]
  cases search : m.search with
  | some text =>
      left
      exact ⟨.engine text, s.reload.transaction, rfl, by rw [Transaction.search, search],
        .inr rfl⟩
  | none =>
      right
      refine ⟨rfl, ?_⟩
      rw [Transaction.search, search]
      rfl

theorem holds_cases (m : Mishaps) (id : String) (s : Store) :
    (∃ fault t, m.lookFault? = some fault ∧ holds m id s.transaction = (.error fault, t) ∧
      (t = s.transaction ∨ t = s.reload.transaction)) ∨
    (m.lookFault? = none ∧
      holds m id s.transaction =
        (.ok !(s.reload.handle.withIdentity id).isEmpty, s.reload.transaction)) := by
  rcases lookUp_cases m id s with ⟨fault, t, looks, failed, same⟩ | ⟨looks, found⟩
  · exact .inl ⟨fault, t, looks, Action.andThen_of_error failed _, same⟩
  · exact .inr ⟨looks, Action.andThen_of_ok found _⟩

theorem orRollback_risky_some (m : Mishaps) (mishap : Mishap) (change : Transaction → Transaction)
    (t : Transaction) :
    orRollback m (risky (some mishap) change) t =
      (.error (.engine mishap.text), rollback m { t with draft := mishap.draft }) := rfl

theorem orRollback_risky_none (m : Mishaps) (change : Transaction → Transaction)
    (t : Transaction) : orRollback m (risky none change) t = (.ok (), change t) := rfl

/-- A commit fails and is taken back, or it publishes what waits. -/
theorem commit_cases (m : Mishaps) (s : Store) (draft : List Stored) :
    (∃ mishap t, m.commit = some mishap ∧
      commit m ⟨s, draft⟩ = (.error (.engine mishap.text), t) ∧ Untouched m s t) ∨
    (m.commit = none ∧ commit m ⟨s, draft⟩ = published m s draft ()) := by
  cases failing : m.commit with
  | some mishap =>
      left
      refine ⟨mishap, rollback m ⟨s, mishap.draft⟩, rfl, ?_, .rollback m s mishap.draft⟩
      rw [commit, failing, Action.andThen_of_error (orRollback_risky_some m mishap publish _)]
  | none =>
      right
      refine ⟨rfl, ?_⟩
      rw [commit, failing, Action.andThen_of_ok (orRollback_risky_none m publish _), published]
      cases m.refresh <;> rfl

/-- What comes after the lock and a look fails as one of these, or goes on with what was found. -/
theorem guarded_cases {α : Type} (m : Mishaps) (id : String) (s : Store)
    (next : List Stored → Action Transaction α) :
    let guarded := (lock m).andThen fun _ => (lookUp m id).andThen next
    (∃ fault t, (m.lockFault? s.handle).or m.lookFault? = some fault ∧
      guarded s.transaction = (.error fault, t) ∧ Untouched m s t) ∨
    ((m.lockFault? s.handle).or m.lookFault? = none ∧
      guarded s.transaction =
        next (s.reload.handle.withIdentity id) s.reload.transaction) := by
  intro guarded
  have locking := lock_eq m s
  cases locked : m.lockFault? s.handle with
  | some fault =>
      rw [locked] at locking
      left
      exact ⟨fault, s.transaction, rfl, Action.andThen_of_error locking _, .of_eq (.inl rfl)⟩
  | none =>
  rw [locked] at locking
  have unlocked : guarded s.transaction = (lookUp m id).andThen next s.transaction :=
    Action.andThen_of_ok locking _
  rw [Option.none_or, unlocked]
  rcases lookUp_cases m id s with ⟨fault, t, looks, failed, same⟩ | ⟨looks, found⟩
  · exact .inl ⟨fault, t, looks, Action.andThen_of_error failed _, .of_eq same⟩
  · exact .inr ⟨looks, Action.andThen_of_ok found _⟩

/-- A record is not saved for a fault that is known beforehand, or it is published. -/
theorem save_cases (m : Mishaps) (r : Record) (s : Store) :
    (∃ fault t, m.saveFault? r s = some fault ∧ save m r s.transaction = (.error fault, t) ∧
      Untouched m s t) ∨
    (m.saveFault? r s = none ∧
      save m r s.transaction =
        published m s.reload (s.index.records ++ [.ofRecord s.handle.registry r]) ()) := by
  rw [save, Mishaps.saveFault?, ← Option.or_assoc]
  rcases guarded_cases m r.id s _ with ⟨fault, t, early, failed, untouched⟩ | ⟨passes, goesOn⟩
  · left
    exact ⟨fault, t, by rw [early, Option.some_or], failed, untouched⟩
  rw [goesOn, passes, Option.none_or]
  cases free : (s.reload.handle.withIdentity r.id).isEmpty with
  | false =>
      left
      exact ⟨.duplicateKey r.id, s.reload.transaction, rfl, rfl, .of_eq (.inr rfl)⟩
  | true =>
  rw [if_pos rfl, if_pos rfl, Mishaps.writeFault?]
  cases writing : m.write with
  | some mishap =>
      left
      refine ⟨.engine mishap.text, rollback m ⟨s.reload, mishap.draft⟩, rfl, ?_,
        (Untouched.rollback m s.reload mishap.draft).of_reload⟩
      rw [Action.andThen_of_error (orRollback_risky_some m mishap _ _)]
      rfl
  | none =>
  rw [Action.andThen_of_ok (orRollback_risky_none m _ _), Option.none_or]
  rcases commit_cases m s.reload (s.index.records ++ [.ofRecord s.handle.registry r]) with
    ⟨mishap, t, failing, failed, untouched⟩ | ⟨fine, done⟩
  · left
    exact ⟨.engine mishap.text, t, by rw [failing, Option.map_some], failed, untouched.of_reload⟩
  · right
    exact ⟨by rw [fine, Option.map_none], done⟩

/-- A removal fails with the records as they were, finds nothing to remove, or is published. -/
theorem delete_cases (m : Mishaps) (id : String) (s : Store) :
    (∃ fault t, delete m id s.transaction = (.error fault, t) ∧ Untouched m s t) ∨
    delete m id s.transaction = (.ok false, s.reload.transaction) ∨
    delete m id s.transaction = published m s.reload
      (s.index.records.filter fun d => !s.handle.sees (.term .id id) d) true := by
  rw [delete]
  rcases guarded_cases m id s _ with ⟨fault, t, -, failed, untouched⟩ | ⟨-, goesOn⟩
  · exact .inl ⟨fault, t, failed, untouched⟩
  rw [goesOn]
  cases absent : (s.reload.handle.withIdentity id).isEmpty with
  | true => exact .inr (.inl rfl)
  | false =>
  rw [if_neg Bool.false_ne_true]
  rcases commit_cases m s.reload
      (s.index.records.filter fun d => !s.handle.sees (.term .id id) d) with
    ⟨mishap, t, -, failed, untouched⟩ | ⟨-, done⟩
  · left
    exact ⟨.engine mishap.text, t, Action.andThen_of_error failed _, untouched.of_reload⟩
  · right
    right
    unfold published at done ⊢
    cases refresh : m.refresh with
    | some text =>
        rw [refresh] at done
        exact Action.andThen_of_error done _
    | none =>
        rw [refresh] at done
        exact Action.andThen_of_ok done _

/-- Removing all records fails with the records as they were or is published.  Unlike the other
writes it takes nothing back, so what waits after a failure may be anything. -/
theorem purge_cases (m : Mishaps) (s : Store) :
    (∃ fault t, purge m s.transaction = (.error fault, t) ∧
      (t.store = s ∨ t.store = s.reload) ∧ (m.write = none → Untouched m s t)) ∨
    purge m s.transaction = published m s [] () := by
  have locking := lock_eq m s
  cases locked : m.lockFault? s.handle with
  | some fault =>
      rw [locked] at locking
      left
      exact ⟨fault, s.transaction, Action.andThen_of_error locking _, .inl rfl,
        fun _ => .of_eq (.inl rfl)⟩
  | none =>
  rw [locked] at locking
  rw [purge, Action.andThen_of_ok locking]
  cases writing : m.write with
  | some mishap =>
      left
      refine ⟨.engine mishap.text, ⟨s, mishap.draft⟩, rfl, .inl rfl, ?_⟩
      rintro ⟨⟩
  | none =>
  have written : risky none (fun t => { t with draft := [] }) s.transaction = (.ok (), ⟨s, []⟩) :=
    rfl
  rw [Action.andThen_of_ok written]
  rcases commit_cases m s [] with ⟨mishap, t, -, failed, untouched⟩ | ⟨-, done⟩
  · left
    exact ⟨.engine mishap.text, t, failed, untouched.same, fun _ => untouched⟩
  · exact .inr done

end Transaction

end RecordSearch
