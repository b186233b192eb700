import RecordSearch.Proofs.Store.Call

/-!
# Runs under registries that differ

An index is opened by one registry after another.  They agree on its layout, but one may require
what another does not.  Nothing that was stored is lost; but the registry that reads a record finds
fault with it if the record lacks what this registry requires, even if the one that stored it did
not.
-/

namespace RecordSearch

theorem Record.handOut_of_named {r : Record} (named : Text.allBlank r.id = false)
    (registry : Registry) :
    r.handOut registry =
      if r.lacking registry = [] then .ok r.floorDates
      else .error (.invalidDocument (.missingRequired r.id (r.lacking registry))) := by
  have fault : r.floorDates.fault? registry =
      if r.lacking registry = [] then none
      else some (.missingRequired r.id (r.lacking registry)) := by
    rw [Record.fault?_floorDates, Record.fault?, named]
    cases r.lacking registry with
    | nil => rfl
    | cons name names => rfl
  rw [Record.handOut, Record.finish, fault]
  split_ifs
  · rfl
  · rfl

namespace Store

structure Session where
  registry : Registry
  heapBytes : Nat
  calls : List Call

/-- The index is opened with the layout that it was made with, and only records with identities that
are not too long for a keyword are saved, which were made under the registry. -/
structure Session.Proper (layout : List (Attribute × Kind)) (session : Session) : Prop where
  layout : session.registry.layout = layout
  memory : Index.heapFault? session.heapBytes = none
  built : ∀ r, .update (.save r) ∈ session.calls → r.Built session.registry
  short : ∀ r, .update (.save r) ∈ session.calls → r.id.utf8ByteSize ≤ longestKeyword

def Session.run (session : Session) (found : Option Index) :
    Except StoreFault (List (Call × Answer) × Store) :=
  match openDisk session.registry session.heapBytes found false with
  | .ok s => .ok (Call.trace session.calls s)
  | .error fault => .error fault

/-- Runs one after another: each finds the index that the run before has left. -/
def runAll : List Session → Option Index → Except StoreFault (List (Call × Answer) × Option Index)
  | [], found => .ok ([], found)
  | session :: sessions, found =>
      match session.run found with
      | .error fault => .error fault
      | .ok (log, s) =>
          match runAll sessions (some s.index) with
          | .error fault => .error fault
          | .ok (later, found) => .ok (log ++ later, found)

/-- Records that differ in their identities, none of which is blank or too long. -/
structure Orderly (contents : List Record) : Prop where
  distinct : (contents.map Record.id).Nodup
  named : ∀ r ∈ contents, Text.allBlank r.id = false
  short : ∀ r ∈ contents, r.id.utf8ByteSize ≤ longestKeyword

/-- Whoever opens the index with its layout has a store of the records. -/
def Opens (layout : List (Attribute × Kind)) (contents : List Record) (found : Option Index) :
    Prop :=
  ∀ (registry : Registry) (heapBytes : Nat), registry.layout = layout →
    Index.heapFault? heapBytes = none →
      openDisk registry heapBytes found false = .ok (keeping registry contents)

variable {layout : List (Attribute × Kind)} {contents : List Record} {found : Option Index}
  {session : Session} {r : Record}

theorem opens_none (layout : List (Attribute × Kind)) : Opens layout [] none := by
  intro registry heapBytes _ enough
  exact openDisk_none registry enough

theorem opens_keeping {registry : Registry} (same : registry.layout = layout)
    (contents : List Record) : Opens layout contents (some (keeping registry contents).index) := by
  intro other heapBytes same' enough
  have index : (keeping registry contents).index = (keeping other contents).index := by
    have agree : registry.layout = other.layout := same.trans same'.symm
    simp only [keeping, agree, ofRecord_of_layout agree]
  rw [index]
  exact openDisk_keeping other contents enough

namespace Orderly

theorem next (orderly : Orderly contents) (call : Call)
    (named : ∀ r, call = .update (.save r) → Text.allBlank r.id = false)
    (short : ∀ r, call = .update (.save r) → r.id.utf8ByteSize ≤ longestKeyword) :
    Orderly (call.next contents) := by
  cases call with
  | ask q => exact orderly
  | update u =>
      rw [Call.next, Update.next]
      cases refused : (u.answer contents).isRefusal with
      | true => exact orderly
      | false =>
          rw [if_neg Bool.false_ne_true]
          cases u with
          | save r =>
              -- No record was found under the identity, which is not too long to be found.
              have free : r.id ∉ contents.map Record.id := by
                intro taken
                obtain ⟨other, member, same⟩ := List.mem_map.mp taken
                have found : contents.any (·.answersTo r.id) = true := by
                  apply List.any_eq_true.mpr
                  exact ⟨other, member, Record.answersTo_iff.mpr ⟨same, short r rfl⟩⟩
                rw [Update.answer, if_pos found] at refused
                cases refused
              constructor
              · rw [Update.effect, List.map_append, List.nodup_append]
                refine ⟨orderly.distinct, List.nodup_singleton _, ?_⟩
                intro id member other new same
                rw [same, List.mem_singleton.mp new] at member
                exact free member
              · intro other member
                rcases List.mem_append.mp member with old | new
                · exact orderly.named other old
                · rw [List.mem_singleton.mp new]
                  exact named r rfl
              · intro other member
                rcases List.mem_append.mp member with old | new
                · exact orderly.short other old
                · rw [List.mem_singleton.mp new]
                  exact short r rfl
          | delete id =>
              constructor
              · exact orderly.distinct.sublist (List.filter_sublist.map Record.id)
              · intro other member
                exact orderly.named other (List.mem_of_mem_filter member)
              · intro other member
                exact orderly.short other (List.mem_of_mem_filter member)
          | purge => exact ⟨List.nodup_nil, List.forall_mem_nil _, List.forall_mem_nil _⟩

theorem foldl_next (orderly : Orderly contents) {calls : List Call}
    (named : ∀ r, .update (.save r) ∈ calls → Text.allBlank r.id = false)
    (short : ∀ r, .update (.save r) ∈ calls → r.id.utf8ByteSize ≤ longestKeyword) :
    Orderly (calls.foldl Call.next contents) := by
  induction calls generalizing contents with
  | nil => exact orderly
  | cons call calls inductionHypothesis =>
      rw [List.foldl_cons]
      apply inductionHypothesis
      · apply orderly.next call
        · rintro r rfl
          exact named r List.mem_cons_self
        · rintro r rfl
          exact short r List.mem_cons_self
      · intro r later
        exact named r (List.mem_cons_of_mem _ later)
      · intro r later
        exact short r (List.mem_cons_of_mem _ later)

/-- A record is the one that is found under its identity. -/
theorem find?_eq (orderly : Orderly contents) (member : r ∈ contents) :
    contents.find? (·.answersTo r.id) = some r := by
  have answers : r.answersTo r.id = true := Record.answersTo_iff.mpr ⟨rfl, orderly.short r member⟩
  cases first : contents.find? (·.answersTo r.id) with
  | none => exact absurd answers (List.find?_eq_none.mp first r member)
  | some other =>
      have same : other.id = r.id := (Record.answersTo_iff.mp (List.find?_some first)).1
      rw [List.inj_on_of_nodup_map orderly.distinct (List.mem_of_find?_eq_some first) member same]

end Orderly

theorem Session.Proper.named (proper : session.Proper layout) {r : Record}
    (saved : .update (.save r) ∈ session.calls) : Text.allBlank r.id = false := by
  have sound := Record.complete_iff.mp (proper.built r saved).complete
  cases blank : Text.allBlank r.id with
  | false => rfl
  | true =>
      rw [Record.fault?, blank] at sound
      cases sound

/-- A run leaves the records that its accepted updates have left. -/
theorem Session.run_eq (proper : session.Proper layout) (opens : Opens layout contents found)
    (orderly : Orderly contents) :
    ∃ log, session.run found = .ok (log, keeping session.registry (after contents (accepted log))) ∧
      Orderly (after contents (accepted log)) := by
  obtain ⟨state, left⟩ := Call.trace_keeping session.registry contents session.calls
  refine ⟨(Call.trace session.calls (keeping session.registry contents)).1, ?_, ?_⟩
  · rw [run, opens session.registry session.heapBytes proper.layout proper.memory, left, ← state]
  · rw [left]
    exact orderly.foldl_next (fun r => proper.named) proper.short

theorem accepted_append (log others : List (Call × Answer)) :
    accepted (log ++ others) = accepted log ++ accepted others :=
  List.filterMap_append

theorem runAll_eq {sessions : List Session} (proper : ∀ session ∈ sessions, session.Proper layout)
    (opens : Opens layout contents found) (orderly : Orderly contents) :
    ∃ log found', runAll sessions found = .ok (log, found') ∧
      Opens layout (after contents (accepted log)) found' ∧
      Orderly (after contents (accepted log)) := by
  induction sessions generalizing contents found with
  | nil => exact ⟨[], found, rfl, opens, orderly⟩
  | cons session sessions inductionHypothesis =>
      obtain ⟨here, rest⟩ := List.forall_mem_cons.mp proper
      obtain ⟨log, ran, middle⟩ := session.run_eq here opens orderly
      obtain ⟨later, found', others, opens', last⟩ :=
        inductionHypothesis rest (opens_keeping here.layout _) middle
      refine ⟨log ++ later, found', ?_, ?_⟩
      · simp only [runAll, ran, others]
      · rw [accepted_append, after_append]
        exact ⟨opens', last⟩

section Reading

variable {registry : Registry}

theorem find_of_complete (orderly : Orderly contents) (member : r ∈ contents)
    (complete : r.lacking registry = []) :
    (Question.find r.id).run (keeping registry contents) =
      (.found (some r.floorDates), keeping registry contents) := by
  have handed := Record.handOut_of_named (orderly.named r member) registry
  rw [if_pos complete] at handed
  rw [(keeps_keeping registry contents).ask_eq]
  simp only [Question.answer, orderly.find?_eq member, handed, reload_keeping]

theorem find_of_lacking (orderly : Orderly contents) (member : r ∈ contents)
    (lacks : r.lacking registry ≠ []) :
    (Question.find r.id).run (keeping registry contents) =
      (.refused (.invalidDocument (.missingRequired r.id (r.lacking registry))),
        keeping registry contents) := by
  have handed := Record.handOut_of_named (orderly.named r member) registry
  rw [if_neg lacks] at handed
  rw [(keeps_keeping registry contents).ask_eq]
  simp only [Question.answer, orderly.find?_eq member, handed, reload_keeping]

theorem exists_handOut_iff (named : Text.allBlank r.id = false) :
    (∃ r', r.handOut registry = .ok r') ↔ r.lacking registry = [] := by
  rw [Record.handOut_of_named named]
  constructor
  · rintro ⟨r', handed⟩
    by_contra lacks
    rw [if_neg lacks] at handed
    cases handed
  · intro complete
    exact ⟨r.floorDates, if_pos complete⟩

/-- A query succeeds if none of the records that it matches lacks what the registry requires. -/
theorem query_listing_iff (orderly : Orderly contents) (q : Query) :
    (∃ hits, (Question.query q).run (keeping registry contents) =
      (.listing hits, keeping registry contents)) ↔
        ∀ r ∈ contents, q.matches' registry.kind (.ofRecord registry r) = true →
          r.lacking registry = [] := by
  rw [(keeps_keeping registry contents).ask_eq, Question.answer, reload_keeping]
  cases handed : (contents.filter fun r =>
    q.matches' registry.kind (.ofRecord registry r)).mapM (Record.handOut registry) with
  | ok hits =>
      constructor
      · intro _ r member found
        apply (exists_handOut_iff (orderly.named r member)).mp
        exact Attempt.exists_ok_of_mapM handed r (List.mem_filter.mpr ⟨member, found⟩)
      · intro _
        exact ⟨hits, rfl⟩
  | error fault =>
      constructor
      · rintro ⟨hits, answered⟩
        cases answered
      · intro complete
        obtain ⟨r, hit, failed⟩ := Attempt.mapM_eq_error handed
        obtain ⟨member, found⟩ := List.mem_filter.mp hit
        obtain ⟨r', done⟩ := (exists_handOut_iff (orderly.named r member)).mpr
          (complete r member found)
        rw [failed] at done
        cases done

end Reading

/-- Nothing that was stored is lost: after any runs, under registries that agree on the layout, each
record that was saved and not removed is found again by the last run, if it has what the registry of
that run requires; if not, the record is reported as invalid.  A query fails in the same way, and in
no other, because of a record that it matches. -/
theorem readable_iff_complete (sessions : List Session) (last : Session)
    (proper : ∀ session ∈ sessions ++ [last], session.Proper layout) :
    ∃ log found later s, runAll sessions none = .ok (log, found) ∧
      last.run found = .ok (later, s) ∧
      (∀ r, Survives r (accepted (log ++ later)) → r.lacking last.registry = [] →
        (Question.find r.id).run s = (.found (some r.floorDates), s)) ∧
      (∀ r, Survives r (accepted (log ++ later)) → r.lacking last.registry ≠ [] →
        (Question.find r.id).run s =
          (.refused (.invalidDocument (.missingRequired r.id (r.lacking last.registry))), s)) ∧
      ∀ q, (∃ hits, (Question.query q).run s = (.listing hits, s)) ↔
        ∀ r, Survives r (accepted (log ++ later)) →
          q.matches' last.registry.kind (.ofRecord last.registry r) = true →
            r.lacking last.registry = [] := by
  rw [List.forall_mem_append, List.forall_mem_singleton] at proper
  have empty : Orderly [] := ⟨List.nodup_nil, List.forall_mem_nil _, List.forall_mem_nil _⟩
  obtain ⟨log, found, ran, opens, before⟩ := runAll_eq proper.1 (opens_none layout) empty
  obtain ⟨later, ranLast, orderly⟩ := last.run_eq proper.2 opens before
  rw [← after_append, ← accepted_append] at ranLast orderly
  refine ⟨log, found, later, _, ran, ranLast, ?_, ?_, ?_⟩
  · intro r survives complete
    exact find_of_complete orderly (mem_after_nil.mpr survives) complete
  · intro r survives lacks
    exact find_of_lacking orderly (mem_after_nil.mpr survives) lacks
  · intro q
    rw [query_listing_iff orderly]
    simp only [mem_after_nil]

end Store

/-- The standard registry, but that a title is required. -/
def Registry.titled : Registry :=
  { Registry.standard with
    required := fun a => a == .id || a == .title
    id_required := rfl }

namespace Store

open Registry (titled)

theorem proper_standard :
    ({ registry := .standard, heapBytes := 50000000, calls := [.update (.save { id := "a" })] } :
      Session).Proper titled.layout := by
  constructor
  · rfl
  · decide
  · intro r saved
    obtain rfl : r = { id := "a" } := by simpa using saved
    exact ⟨"a", [], by decide⟩
  · intro r saved
    obtain rfl : r = { id := "a" } := by simpa using saved
    decide

theorem proper_titled :
    ({ registry := titled, heapBytes := 50000000, calls := [] } : Session).Proper
      titled.layout := by
  constructor
  · rfl
  · decide
  · intro r saved
    exact absurd saved List.not_mem_nil
  · intro r saved
    exact absurd saved List.not_mem_nil

/-- A record without a title is stored by a registry that does not require one, and reported as
invalid by one that does. -/
theorem readable_iff_complete_titled :
    let stored : Session :=
      { registry := .standard, heapBytes := 50000000, calls := [.update (.save { id := "a" })] }
    let last : Session := { registry := titled, heapBytes := 50000000, calls := [] }
    (∀ session ∈ [stored, last], session.Proper titled.layout) ∧
      ∃ log found s, runAll [stored] none = .ok (log, found) ∧ last.run found = .ok ([], s) ∧
        (Question.find "a").run s =
          (.refused (.invalidDocument (.missingRequired "a" ["title"])), s) := by
  intro stored last
  have proper : ∀ session ∈ [stored, last], session.Proper titled.layout := by
    rintro session (_ | ⟨_, _ | ⟨_, ⟨⟩⟩⟩)
    · exact proper_standard
    · exact proper_titled
  refine ⟨proper, ?_⟩
  obtain ⟨log, found, later, s, ran, ranLast, -, lacking, -⟩ :=
    readable_iff_complete [stored] last proper
  cases ran
  cases ranLast
  have survives : Survives { id := "a" } [.save { id := "a" }] :=
    ⟨[], [], rfl, List.forall_mem_nil _⟩
  exact ⟨_, _, _, rfl, rfl, lacking { id := "a" } survives (by decide)⟩

/-- What was stored is not always found again. -/
theorem not_readable_titled :
    ¬ ∀ (layout : List (Attribute × Kind)) (sessions : List Session) (last : Session),
      (∀ session ∈ sessions ++ [last], session.Proper layout) →
        ∀ log found later s, runAll sessions none = .ok (log, found) →
          last.run found = .ok (later, s) →
            ∀ r, Survives r (accepted (log ++ later)) →
              ∃ r', ((Question.find r.id).run s).1 = .found (some r') := by
  intro readable
  have proper := List.forall_mem_cons.mpr ⟨proper_standard, List.forall_mem_singleton.mpr
    proper_titled⟩
  have survives : Survives { id := "a" } [.save { id := "a" }] :=
    ⟨[], [], rfl, List.forall_mem_nil _⟩
  obtain ⟨r', found⟩ := readable titled.layout [_] _ proper _ _ _ _ rfl rfl { id := "a" } survives
  cases found

end Store

end RecordSearch
