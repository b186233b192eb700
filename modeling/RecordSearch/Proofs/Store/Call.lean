import RecordSearch.Proofs.Store.Operation

/-!
# Calls, and the records that they leave

An update changes the records that are kept, a question does not.  Both are told by a list of
records alone: what an update leaves of the list, and how a question is answered by it.  A store
that may write does what the list says, even if its handle has not seen the latest records before
the call.
-/

namespace RecordSearch

/-- A record as it is handed out under a registry, with its dates in whole seconds. -/
def Record.handOut (registry : Registry) (r : Record) : Except StoreFault Record :=
  match r.floorDates.finish registry with
  | .ok r => .ok r
  | .error fault => .error (.invalidDocument fault)

namespace Store

inductive Update where
  | save (r : Record)
  | delete (id : String)
  | purge

inductive Question where
  | holds (id : String)
  | find (id : String)
  | query (q : Query)
  | count

inductive Call where
  | update (u : Update)
  | ask (q : Question)

def Answer.isRefusal : Answer → Bool
  | refused _ => true
  | _ => false

namespace Update

def run (u : Update) (s : Store) : Answer × Store :=
  match u with
  | save r => Answer.of (fun _ => .done) (Store.save r s)
  | delete id => Answer.of .flag (Store.delete id s)
  | purge => Answer.of (fun _ => .done) (Store.purge s)

/-- What an update makes of the records, once it is accepted. -/
def effect (contents : List Record) : Update → List Record
  | save r => contents ++ [r]
  | delete id => contents.filter fun r => !r.answersTo id
  | purge => []

/-- How a store answers that may write. -/
def answer (contents : List Record) : Update → Answer
  | save r =>
      if contents.any (·.answersTo r.id) then .refused (.duplicateKey r.id) else .done
  | delete id => .flag (contents.any (·.answersTo id))
  | purge => .done

/-- The records that a store keeps which may write, after it was asked for an update. -/
def next (contents : List Record) (u : Update) : List Record :=
  if (u.answer contents).isRefusal then contents else u.effect contents

def removes (r : Record) : Update → Bool
  | save _ => false
  | delete id => r.answersTo id
  | purge => true

end Update

namespace Question

def run (q : Question) (s : Store) : Answer × Store :=
  match q with
  | holds id => Answer.of .flag (Store.holds id s)
  | find id => Answer.of .found (Store.find id s)
  | query q => Answer.of (fun hits : List Record => .listing hits) (Store.query q s)
  | count => Answer.of .number (Store.count s)

/-- The answer that the records give under a registry.  A record that is found is handed out as it
is, or the registry finds fault with it. -/
def answer (registry : Registry) (contents : List Record) : Question → Answer
  | holds id => .flag (contents.any (·.answersTo id))
  | find id =>
      match contents.find? (·.answersTo id) with
      | none => .found none
      | some r =>
          match r.handOut registry with
          | .ok r => .found (some r)
          | .error fault => .refused fault
  | query q =>
      match (contents.filter fun r =>
          q.matches' registry.kind (.ofRecord registry r)).mapM (Record.handOut registry) with
      | .ok hits => .listing hits
      | .error fault => .refused fault
  | count => .number contents.length

end Question

namespace Call

def run (call : Call) (s : Store) : Answer × Store :=
  match call with
  | update u => u.run s
  | ask q => q.run s

def next (contents : List Record) : Call → List Record
  | update u => u.next contents
  | ask _ => contents

/-- The calls with their answers, and the store that they leave. -/
def trace : List Call → Store → List (Call × Answer) × Store
  | [], s => ([], s)
  | call :: calls, s =>
      let now := call.run s
      let later := trace calls now.2
      ((call, now.1) :: later.1, later.2)

def accepted? (entry : Call × Answer) : Option Update :=
  match entry with
  | (update u, answer) => if answer.isRefusal then none else some u
  | (ask _, _) => none

end Call

def accepted (log : List (Call × Answer)) : List Update := log.filterMap Call.accepted?

def after (contents : List Record) (updates : List Update) : List Record :=
  updates.foldl Update.effect contents

/-- A record is saved, and no later update takes it out. -/
def Survives (r : Record) (updates : List Update) : Prop :=
  ∃ earlier later, updates = earlier ++ .save r :: later ∧ ∀ u ∈ later, u.removes r = false

section Contents

variable {r : Record} {contents : List Record} {updates : List Update}

theorem mem_effect {u : Update} :
    r ∈ u.effect contents ↔ u = .save r ∨ (r ∈ contents ∧ u.removes r = false) := by
  cases u with
  | save r' =>
      rw [Update.effect, List.mem_append, List.mem_singleton]
      constructor
      · rintro (old | rfl)
        · exact .inr ⟨old, rfl⟩
        · exact .inl rfl
      · rintro (same | ⟨old, -⟩)
        · injection same with same
          exact .inr same.symm
        · exact .inl old
  | delete id => simp [Update.effect, Update.removes]
  | purge => simp [Update.effect, Update.removes]

/-- The records after some updates are those that were saved or were there before, and that no later
update took out. -/
theorem mem_after :
    r ∈ after contents updates ↔
      Survives r updates ∨ (r ∈ contents ∧ ∀ u ∈ updates, u.removes r = false) := by
  induction updates generalizing contents with
  | nil =>
      constructor
      · intro old
        exact .inr ⟨old, List.forall_mem_nil _⟩
      · rintro (⟨earlier, later, split, -⟩ | ⟨old, -⟩)
        · exact absurd split.symm
            (List.append_ne_nil_of_right_ne_nil earlier (List.cons_ne_nil _ _))
        · exact old
  | cons u updates inductionHypothesis =>
      rw [after, List.foldl_cons, ← after, inductionHypothesis, mem_effect, List.forall_mem_cons]
      constructor
      · rintro (⟨earlier, later, rfl, kept⟩ | ⟨rfl | ⟨old, first⟩, kept⟩)
        · exact .inl ⟨u :: earlier, later, rfl, kept⟩
        · exact .inl ⟨[], updates, rfl, kept⟩
        · exact .inr ⟨old, first, kept⟩
      · rintro (⟨earlier, later, split, kept⟩ | ⟨old, first, kept⟩)
        · cases earlier with
          | nil =>
              injection split with same rest
              subst rest
              exact .inr ⟨.inl same, kept⟩
          | cons v earlier =>
              injection split with same rest
              exact .inl ⟨earlier, later, rest, kept⟩
        · exact .inr ⟨.inr ⟨old, first⟩, kept⟩

theorem mem_after_nil : r ∈ after [] updates ↔ Survives r updates := by
  simp [mem_after]

end Contents

section Stores

variable {registry : Registry} {contents : List Record} {s : Store}

/-- The index keeps some records, and the handle belongs to its registry; what the handle has seen
so far does not matter. -/
structure Keeps (registry : Registry) (contents : List Record) (s : Store) : Prop where
  index : s.index = ⟨registry.layout, contents.map (Stored.ofRecord registry)⟩
  owner : s.handle.registry = registry

theorem keeps_keeping (registry : Registry) (contents : List Record) :
    Keeps registry contents (keeping registry contents) := ⟨rfl, rfl⟩

theorem Keeps.reload (keeps : Keeps registry contents s) : Keeps registry contents s.reload :=
  ⟨keeps.index, keeps.owner⟩

theorem Keeps.reload_eq (keeps : Keeps registry contents s) (locks : s.handle.writable = true) :
    s.reload = keeping registry contents := by
  obtain ⟨index, ⟨owner, writable, seen⟩⟩ := s
  obtain ⟨rfl, owned⟩ := keeps
  obtain rfl : owner = registry := owned
  obtain rfl : writable = true := locks
  rfl

theorem ofRecord_of_layout {registry' : Registry} (same : registry'.layout = registry.layout) :
    Stored.ofRecord registry' = Stored.ofRecord registry := by
  have order : registry'.order = registry.order := by
    have names := congrArg (List.map Prod.fst) same
    simpa only [Registry.layout, List.map_map, Function.comp_def, List.map_id'] using names
  funext r
  rw [Stored.ofRecord, Stored.ofRecord, order]

theorem Keeps.of_layout {registry' : Registry} {other : Store}
    (same : registry'.layout = registry.layout) (keeps : Keeps registry contents s)
    (index : other.index = s.index) (owner : other.handle.registry = registry') :
    Keeps registry' contents other := by
  refine ⟨?_, owner⟩
  rw [same, ofRecord_of_layout same, index]
  exact keeps.index

theorem load_ofRecord (layout : Registry) (h : Handle) (r : Record) :
    h.load (.ofRecord layout r) = r.handOut h.registry := by
  cases finished : r.floorDates.finish h.registry with
  | ok r' => simp only [Handle.load, Stored.toRecord_ofRecord, Record.handOut, finished]
  | error fault => simp only [Handle.load, Stored.toRecord_ofRecord, Record.handOut, finished]

theorem mapM_load_ofRecord (layout : Registry) (h : Handle) (hits : List Record) :
    (hits.map (Stored.ofRecord layout)).mapM h.load = hits.mapM (Record.handOut h.registry) := by
  rw [List.mapM_map]
  congr 1
  funext r
  exact load_ofRecord layout h r

theorem Keeps.withIdentity_reload (keeps : Keeps registry contents s) (id : String) :
    s.reload.handle.withIdentity id =
      (contents.filter (·.answersTo id)).map (Stored.ofRecord registry) := by
  rw [← withIdentity_keeping]
  simp only [Handle.withIdentity, Store.reload, keeps.index, keeping_snapshot]
  apply List.filter_congr
  intro d _
  simp only [Handle.sees, keeps.owner, keeping_registry]

theorem Keeps.find_eq (keeps : Keeps registry contents s) (id : String) :
    (Question.find id).run s = ((Question.find id).answer registry contents, s.reload) := by
  have found := keeps.withIdentity_reload id
  have loaded (r : Record) : s.reload.handle.load (.ofRecord registry r) = r.handOut registry := by
    rw [load_ofRecord, show s.reload.handle.registry = registry from keeps.owner]
  simp only [Question.run, Question.answer, Store.find_eq, ← List.head?_filter, found]
  cases contents.filter (·.answersTo id) with
  | nil => rfl
  | cons r others =>
      simp only [List.map_cons, List.head?_cons, Option.elim_some, loaded]
      cases r.handOut registry <;> rfl

theorem Keeps.query_eq (keeps : Keeps registry contents s) (q : Query) :
    (Question.query q).run s = ((Question.query q).answer registry contents, s.reload) := by
  have owner : s.reload.handle.registry = registry := keeps.owner
  have seen : s.reload.handle.snapshot = contents.map (Stored.ofRecord registry) := by
    simp only [Store.reload, keeps.index]
  have hits : (contents.map (Stored.ofRecord registry)).filter (s.reload.handle.sees q) =
      (contents.filter fun r => q.matches' registry.kind (.ofRecord registry r)).map
        (Stored.ofRecord registry) := by
    have sees : s.reload.handle.sees q = q.matches' registry.kind := by
      funext d
      simp only [Handle.sees, owner]
    rw [sees]
    exact List.filter_map
  -- No hit is cut off, for there are not more hits than records.
  have bounded : ((contents.filter fun r => q.matches' registry.kind (.ofRecord registry r)).map
      (Stored.ofRecord registry)).length ≤ max 1 contents.length := by
    have filtered := List.length_filter_le
      (fun r => q.matches' registry.kind (.ofRecord registry r)) contents
    rw [List.length_map]
    omega
  simp only [Question.run, Question.answer, Store.query_eq, seen, hits, List.length_map,
    List.take_of_length_le bounded, mapM_load_ofRecord, owner]
  cases (contents.filter fun r =>
    q.matches' registry.kind (.ofRecord registry r)).mapM (Record.handOut registry) <;> rfl

/-- A question is answered by the records, whether or not the handle had seen them before and
whether or not it may write. -/
theorem Keeps.ask_eq (keeps : Keeps registry contents s) (q : Question) :
    q.run s = (q.answer registry contents, s.reload) := by
  cases q with
  | holds id =>
      have held : (s.reload.handle.withIdentity id).isEmpty = !contents.any (·.answersTo id) := by
        rw [keeps.withIdentity_reload, ← withIdentity_keeping, isEmpty_withIdentity_keeping]
      simp only [Question.run, Question.answer, Store.holds_eq, held, Bool.not_not]
      rfl
  | find id => exact keeps.find_eq id
  | query q => exact keeps.query_eq q
  | count =>
      have number : s.reload.handle.snapshot.length = contents.length := by
        simp only [Store.reload, keeps.index, List.length_map]
      simp only [Question.run, Question.answer, Store.count_eq, number]
      rfl

theorem Update.run_of_not_writable (locked : s.handle.writable = false) (u : Update) :
    u.run s = (.refused .readOnly, s) := by
  cases u with
  | save r => simp only [run, Store.save_eq, locked, Bool.false_eq_true, if_false, Answer.of]
  | delete id => simp only [run, Store.delete_eq, locked, Bool.false_eq_true, if_false, Answer.of]
  | purge => simp only [run, Store.purge_eq, locked, Bool.false_eq_true, if_false, Answer.of]

theorem Update.run_reload (u : Update) (locks : s.handle.writable = true) :
    u.run s.reload = u.run s := by
  have still : s.reload.handle.writable = true := locks
  cases u with
  | save r =>
      simp only [run, Store.save_eq, locks, still, if_true]
      rfl
  | delete id =>
      simp only [run, Store.delete_eq, locks, still, if_true]
      rfl
  | purge =>
      simp only [run, Store.purge_eq, locks, still, if_true]
      rfl

/-- The dates of a record need not be in whole seconds when it is saved. -/
theorem keeping_append_floorDates (registry : Registry) (contents : List Record) (r : Record) :
    keeping registry (contents ++ [r.floorDates]) = keeping registry (contents ++ [r]) := by
  simp only [keeping, List.map_append, List.map_cons, List.map_nil, Stored.ofRecord_floorDates]

/-- An update is answered by the records, and if it is accepted, it has its effect. -/
theorem Update.run_keeping (registry : Registry) (contents : List Record) (u : Update) :
    u.run (keeping registry contents) =
      (u.answer contents, keeping registry (u.next contents)) := by
  cases u with
  | save r =>
      rw [run, save_keeping, next, answer]
      by_cases taken : contents.any (·.answersTo r.id) = true
      · rw [if_pos taken, if_pos taken]
        rfl
      · rw [if_neg taken, if_neg taken, keeping_append_floorDates]
        rfl
  | delete id =>
      rw [run, delete_keeping]
      rfl
  | purge => rfl

theorem Call.run_keeping (registry : Registry) (contents : List Record) (call : Call) :
    (call.run (keeping registry contents)).2 = keeping registry (call.next contents) := by
  cases call with
  | update u => rw [run, u.run_keeping, next]
  | ask q => rw [run, (keeps_keeping registry contents).ask_eq, next, reload_keeping]

theorem accepted_cons (entry : Call × Answer) (log : List (Call × Answer)) :
    accepted (entry :: log) = (Call.accepted? entry).toList ++ accepted log := by
  rw [accepted, List.filterMap_cons]
  cases Call.accepted? entry <;> rfl

theorem after_append (contents : List Record) (updates others : List Update) :
    after contents (updates ++ others) = after (after contents updates) others :=
  List.foldl_append

theorem after_accepted? (contents : List Record) (u : Update) :
    after contents (Call.accepted? (.update u, u.answer contents)).toList = u.next contents := by
  simp only [Call.accepted?, Update.next]
  cases (u.answer contents).isRefusal with
  | true => rfl
  | false => rfl

/-- After any calls a store keeps what the updates have left that were accepted. -/
theorem Call.trace_keeping (registry : Registry) (contents : List Record) (calls : List Call) :
    (trace calls (keeping registry contents)).2 =
        keeping registry (calls.foldl next contents) ∧
      after contents (accepted (trace calls (keeping registry contents)).1) =
        calls.foldl next contents := by
  induction calls generalizing contents with
  | nil => exact ⟨rfl, rfl⟩
  | cons call calls inductionHypothesis =>
      have now : after contents
          (accepted? (call, (call.run (keeping registry contents)).1)).toList =
            call.next contents := by
        cases call with
        | update u => rw [run, u.run_keeping, after_accepted?, next]
        | ask q => rfl
      rw [trace, accepted_cons, after_append, now, call.run_keeping]
      exact inductionHypothesis (call.next contents)

end Stores

end Store

end RecordSearch
