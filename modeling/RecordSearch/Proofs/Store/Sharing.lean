import RecordSearch.Proofs.Store.Call

/-!
# An index that is open twice

The handle that was opened first has the lock of the index, so the second one cannot write.  Each
handle sees the index as it was when the handle last looked; still, whatever the order of the calls
on both handles, each question is answered by what the first handle has written up to then.
-/

namespace RecordSearch.Store

inductive Side where
  | first
  | second
  deriving DecidableEq

structure Shared where
  index : Index
  first : Handle
  second : Handle

namespace Shared

def store (shared : Shared) : Side → Store
  | .first => ⟨shared.index, shared.first⟩
  | .second => ⟨shared.index, shared.second⟩

def put (shared : Shared) (s : Store) : Side → Shared
  | .first => { shared with index := s.index, first := s.handle }
  | .second => { shared with index := s.index, second := s.handle }

/-- Opens the index of a store once more; the index is locked if the store may write to it. -/
def join (s : Store) (registry : Registry) (heapBytes : Nat) : Except StoreFault Shared :=
  match openDisk registry heapBytes (some s.index) s.handle.writable with
  | .ok other => .ok ⟨other.index, s.handle, other.handle⟩
  | .error fault => .error fault

def act (shared : Shared) (side : Side) (call : Call) : Answer × Shared :=
  let done := call.run (shared.store side)
  (done.1, shared.put done.2 side)

structure Event where
  side : Side
  call : Call
  answer : Answer

def trace (shared : Shared) : List (Side × Call) → List Event × Shared
  | [] => ([], shared)
  | (side, call) :: calls =>
      let now := shared.act side call
      let later := trace now.2 calls
      (⟨side, call, now.1⟩ :: later.1, later.2)

def Event.write? (e : Event) : Option Update :=
  match e.side with
  | .first => Call.accepted? (e.call, e.answer)
  | .second => none

/-- The updates that the first handle has made. -/
def writes (log : List Event) : List Update := log.filterMap Event.write?

theorem writes_cons (e : Event) (log : List Event) :
    writes (e :: log) = e.write?.toList ++ writes log := by
  rw [writes, List.filterMap_cons]
  cases e.write? <;> rfl

/-- Both handles are about the same records, and only the first one may write. -/
structure Agrees (registry registry' : Registry) (contents : List Record) (shared : Shared) :
    Prop where
  layout : registry'.layout = registry.layout
  first : Keeps registry contents (shared.store .first)
  owner : shared.second.registry = registry'
  locks : shared.first.writable = true
  locked : shared.second.writable = false

variable {registry registry' : Registry} {contents : List Record} {shared : Shared}

namespace Agrees

theorem second (agrees : Agrees registry registry' contents shared) :
    Keeps registry' contents (shared.store .second) :=
  agrees.first.of_layout agrees.layout rfl agrees.owner

theorem update_first (agrees : Agrees registry registry' contents shared) (u : Update) :
    shared.act .first (.update u) =
      (u.answer contents, shared.put (keeping registry (u.next contents)) .first) := by
  have ran : u.run (shared.store .first) = u.run (keeping registry contents) := by
    rw [← u.run_reload agrees.locks, agrees.first.reload_eq agrees.locks]
  simp only [act, Call.run, ran, Update.run_keeping]

theorem update_second (agrees : Agrees registry registry' contents shared) (u : Update) :
    shared.act .second (.update u) = (.refused .readOnly, shared) := by
  simp only [act, Call.run, Update.run_of_not_writable (s := shared.store .second) agrees.locked]
  rfl

theorem ask_first (agrees : Agrees registry registry' contents shared) (q : Question) :
    shared.act .first (.ask q) =
      (q.answer registry contents, shared.put (shared.store .first).reload .first) := by
  simp only [act, Call.run, agrees.first.ask_eq]

theorem ask_second (agrees : Agrees registry registry' contents shared) (q : Question) :
    shared.act .second (.ask q) =
      (q.answer registry' contents, shared.put (shared.store .second).reload .second) := by
  simp only [act, Call.run, agrees.second.ask_eq]

/-- A call on either handle leaves both about the same records, which only the first can change. -/
theorem act (agrees : Agrees registry registry' contents shared) (side : Side) (call : Call) :
    Agrees registry registry' (after contents
        (Event.write? ⟨side, call, (shared.act side call).1⟩).toList)
      (shared.act side call).2 := by
  cases side with
  | first =>
      cases call with
      | update u =>
          rw [agrees.update_first u, Event.write?, after_accepted?]
          constructor
          · exact agrees.layout
          · exact keeps_keeping registry _
          · exact agrees.owner
          · rfl
          · exact agrees.locked
      | ask q =>
          rw [agrees.ask_first q]
          constructor
          · exact agrees.layout
          · exact agrees.first.reload
          · exact agrees.owner
          · exact agrees.locks
          · exact agrees.locked
  | second =>
      cases call with
      | update u =>
          rw [agrees.update_second u]
          exact agrees
      | ask q =>
          rw [agrees.ask_second q]
          constructor
          · exact agrees.layout
          · exact ⟨agrees.first.index, agrees.first.owner⟩
          · exact agrees.owner
          · exact agrees.locks
          · exact agrees.locked

theorem trace (agrees : Agrees registry registry' contents shared) (calls : List (Side × Call)) :
    Agrees registry registry' (after contents (writes (shared.trace calls).1))
      (shared.trace calls).2 := by
  induction calls generalizing contents shared with
  | nil => exact agrees
  | cons entry calls inductionHypothesis =>
      obtain ⟨side, call⟩ := entry
      have later := inductionHypothesis (agrees.act side call)
      rw [← after_append, ← writes_cons] at later
      exact later

end Agrees

theorem keeps_of_openDisk {heapBytes : Nat} {found : Option Index} {s : Store}
    (kept : found.getD (.empty registry) =
      ⟨registry.layout, contents.map (Stored.ofRecord registry)⟩)
    (opened : openDisk registry heapBytes found false = .ok s) :
    Keeps registry contents s ∧ s.handle.writable = true := by
  rw [eq_of_openDisk opened]
  exact ⟨⟨kept, rfl⟩, rfl⟩

theorem join_agrees {s : Store} (keeps : Keeps registry contents s)
    (locks : s.handle.writable = true) (same : registry'.layout = registry.layout)
    (heapBytes : Nat) :
    ∃ shared, join s registry' heapBytes = .ok shared ∧
      Agrees registry registry' contents shared := by
  have fits : s.index.layout = registry'.layout := by
    rw [keeps.index, same]
  have opened : openDisk registry' heapBytes (some s.index) s.handle.writable =
      .ok ⟨s.index, ⟨registry', false, s.index.records⟩⟩ := by
    simp only [openDisk, Option.getD_some, fits, locks, if_true]
  refine ⟨⟨s.index, s.handle, ⟨registry', false, s.index.records⟩⟩, ?_, ?_⟩
  · simp only [join, opened]
  · exact ⟨same, keeps, rfl, locks, rfl⟩

/-- While the first handle has the lock, the second handle refuses every update, and whatever was
called before, on both handles and in any order, each question on either of them is answered by the
records that the updates of the first handle have left. -/
theorem answers_of_writes {before : List Record} {s : Store} (keeps : Keeps registry before s)
    (locks : s.handle.writable = true) (same : registry'.layout = registry.layout)
    (heapBytes : Nat) :
    ∃ shared, join s registry' heapBytes = .ok shared ∧ shared.second.writable = false ∧
      ∀ calls,
        let now := (shared.trace calls).2
        let contents := after before (writes (shared.trace calls).1)
        (∀ u, now.act .second (.update u) = (.refused .readOnly, now)) ∧
        (∀ u, (now.act .first (.update u)).1 = u.answer contents) ∧
        (∀ q, (now.act .first (.ask q)).1 = q.answer registry contents) ∧
        ∀ q, (now.act .second (.ask q)).1 = q.answer registry' contents := by
  obtain ⟨shared, joined, agrees⟩ := join_agrees keeps locks same heapBytes
  refine ⟨shared, joined, agrees.locked, ?_⟩
  intro calls now contents
  have agrees : Agrees registry registry' contents now := agrees.trace calls
  refine ⟨?_, ?_, ?_, ?_⟩
  · intro u
    exact agrees.update_second u
  · intro u
    rw [agrees.update_first]
  · intro q
    rw [agrees.ask_first]
  · intro q
    rw [agrees.ask_second]

/-- A record that the first handle saves is found by the second one, which cannot delete it. -/
theorem answers_of_writes_saved :
    ∃ s shared, openDisk Registry.standard 50000000 none false = .ok s ∧
      join s Registry.standard 50000000 = .ok shared ∧
      let now := (shared.trace [(.first, .update (.save { id := "a" })),
        (.second, .update (.delete "a"))]).2
      (now.act .second (.ask (.find "a"))).1 = .found (some { id := "a" }) := by
  have opened : openDisk Registry.standard 50000000 none false =
      .ok (keeping Registry.standard []) := openDisk_none Registry.standard (by decide)
  have new : Keeps Registry.standard [] (keeping Registry.standard []) ∧ _ :=
    keeps_of_openDisk rfl opened
  obtain ⟨keeps, locks⟩ := new
  obtain ⟨shared, joined, -, answers⟩ := answers_of_writes keeps locks rfl 50000000
  refine ⟨_, shared, opened, joined, ?_⟩
  intro now
  obtain ⟨-, -, -, second⟩ := answers [(.first, .update (.save { id := "a" })),
    (.second, .update (.delete "a"))]
  obtain rfl := Except.ok.inj joined
  exact second (.find "a")

end Shared

end RecordSearch.Store
