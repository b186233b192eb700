import RecordSearch.Proofs.Store.Operation
import RecordSearch.Service.Indexing

/-!
# Records under one identity

A store looks for an identity among the terms of its index, and the index has no term for an
identity that is too long for a keyword.  So an identity belongs to one record at most, and a
second record under it is refused, exactly for the identities that are not too long.
-/

namespace RecordSearch

inductive Write where
  | index (w : World) (id : String) (request : IndexRequest)
  | envelope (id mediaType : String) (payload : Content)
  | save (r : Record)
  | delete (id : String)
  | purge

namespace Write

/-- The store that a request leaves. -/
def run (registry : Registry) (request : Write) (s : Store) : Store :=
  match request with
  | index w id request => (Indexing.index registry Store.repository w id request s).2
  | envelope id mediaType payload =>
      (Indexing.indexEnvelope registry Store.repository id mediaType payload s).2
  | save r => (Store.save r s).2
  | delete id => (Store.delete id s).2
  | purge => (Store.purge s).2

/-- A record that is saved was made under the registry. -/
def Proper (registry : Registry) : Write → Prop
  | save r => r.Built registry
  | _ => True

end Write

namespace Store

/-- The stores that requests make of a new one. -/
inductive Reachable (registry : Registry) : Store → Prop where
  | fresh {s : Store} : Fresh registry s → Reachable registry s
  | step {s : Store} {request : Write} : Reachable registry s → request.Proper registry →
      Reachable registry (request.run registry s)

/-- What a store keeps under an identity, taken to the letter. -/
def keptUnder (s : Store) (id : String) : List Stored :=
  s.index.records.filter fun d => d.text? .id == some id

/-- A store has one record of an identity at most, and once it has one it refuses another. -/
structure KeepsOnce (registry : Registry) (id : String) (s : Store) : Prop where
  unique : (s.keptUnder id).length ≤ 1
  refuses : ∀ r : Record, r.Built registry → r.id = id → s.keptUnder id ≠ [] →
    save r s = (.error (.duplicateKey id), s)

inductive Change (before : List Record) : List Record → Prop where
  | nothing : Change before before
  | added (r : Record) (absent : before.any (·.answersTo r.id) = false) :
      Change before (before ++ [r.floorDates])
  | removed (id : String) : Change before (before.filter fun r => !r.answersTo id)
  | emptied : Change before []

variable {registry : Registry} {before after contents : List Record} {id : String}

theorem save_change (registry : Registry) (before : List Record) (r : Record) :
    ∃ after, (save r (keeping registry before)).2 = keeping registry after ∧
      Change before after := by
  rw [save_keeping]
  by_cases taken : before.any (·.answersTo r.id) = true
  · rw [if_pos taken]
    exact ⟨before, rfl, .nothing⟩
  · rw [if_neg taken]
    exact ⟨_, rfl, .added r (by simpa using taken)⟩

theorem snd_commit (r : Record) (s : Store) :
    (Indexing.commit repository r s).2 = (save r s).2 := by
  simp only [Indexing.commit, repository]
  rcases save r s with ⟨⟨⟨⟩⟩ | _, s'⟩ <;> rfl

theorem commit_change (registry : Registry) (before : List Record) (r : Record) :
    ∃ after, (Indexing.commit repository r (keeping registry before)).2 = keeping registry after ∧
      Change before after := by
  rw [snd_commit]
  exact save_change registry before r

/-- Indexing asks before it makes the record, and the store asks again. -/
theorem indexing_change (registry : Registry) (before : List Record) (id : String)
    (made : Except Failure Record) :
    ∃ after, (Indexing.run repository id made (keeping registry before)).2 =
      keeping registry after ∧ Change before after := by
  have asked : Indexing.precheck repository id (keeping registry before) =
      (if before.any (·.answersTo id) then .error (.duplicateIdentity id) else .ok (),
        keeping registry before) := by
    simp only [Indexing.precheck, repository, holds_keeping]
    cases before.any (·.answersTo id) <;> rfl
  simp only [Indexing.run, asked]
  cases before.any (·.answersTo id) with
  | true => exact ⟨before, rfl, .nothing⟩
  | false =>
      cases made with
      | error failure => exact ⟨before, rfl, .nothing⟩
      | ok r => exact commit_change registry before r

theorem run_change (registry : Registry) (before : List Record) (request : Write) :
    ∃ after, request.run registry (keeping registry before) = keeping registry after ∧
      Change before after := by
  cases request with
  | index w id request => exact indexing_change registry before id _
  | envelope id mediaType payload =>
      by_cases json : MediaType.essence mediaType = Indexing.envelopeType
      · simp only [Write.run, Indexing.indexEnvelope, json, if_true]
        exact indexing_change registry before id _
      · simp only [Write.run, Indexing.indexEnvelope, json, if_false]
        exact ⟨before, rfl, .nothing⟩
  | save r => exact save_change registry before r
  | delete id =>
      refine ⟨_, ?_, .removed id⟩
      rw [Write.run, delete_keeping]
  | purge => exact ⟨[], rfl, .emptied⟩

/-- At most one record has an identity. -/
def AtMostOne (id : String) (contents : List Record) : Prop :=
  (contents.filter (·.id == id)).length ≤ 1

theorem Change.atMostOne (change : Change before after) (short : id.utf8ByteSize ≤ longestKeyword)
    (once : AtMostOne id before) : AtMostOne id after := by
  cases change with
  | nothing => exact once
  | added r absent =>
      by_cases same : r.id = id
      · subst same
        have free : before.filter (·.id == r.id) = [] := by
          rw [List.filter_eq_nil_iff]
          intro r' member
          have unfound : r'.answersTo r.id = false := by
            simpa using List.any_eq_false.mp absent r' member
          intro sameId
          have found := Record.answersTo_iff.mpr ⟨beq_iff_eq.mp sameId, short⟩
          rw [unfound] at found
          exact Bool.false_ne_true found
        simp [AtMostOne, List.filter_append, free]
      · simpa [AtMostOne, List.filter_append, same] using once
  | removed id' =>
      refine le_trans (List.Sublist.length_le ?_) once
      exact List.filter_sublist.filter _
  | emptied => simp [AtMostOne]

/-- Every store that can be reached keeps some records, and of each identity that is not too long
one at most. -/
theorem Reachable.keeps {s : Store} (reachable : Reachable registry s) :
    ∃ contents, s = keeping registry contents ∧
      ∀ id, id.utf8ByteSize ≤ longestKeyword → AtMostOne id contents := by
  induction reachable with
  | fresh new => exact ⟨[], new.eq_keeping, fun _ _ => by simp [AtMostOne]⟩
  | step reached proper inductionHypothesis =>
      rename_i request
      obtain ⟨before, rfl, once⟩ := inductionHypothesis
      obtain ⟨after, state, change⟩ := run_change registry before request
      exact ⟨after, state, fun id short => change.atMostOne short (once id short)⟩

theorem keptUnder_keeping (registry : Registry) (contents : List Record) (id : String) :
    (keeping registry contents).keptUnder id =
      (contents.filter (·.id == id)).map (Stored.ofRecord registry) := by
  rw [keptUnder, keeping_records, List.filter_map]
  congr 2
  funext r
  have identity : r.text? .id = some r.id := rfl
  simp [identity]

theorem keepsOnce_of_short (short : id.utf8ByteSize ≤ longestKeyword) {s : Store}
    (reachable : Reachable registry s) : KeepsOnce registry id s := by
  obtain ⟨contents, rfl, once⟩ := reachable.keeps
  constructor
  · rw [keptUnder_keeping, List.length_map]
    exact once id short
  · rintro r - rfl stored
    rw [keptUnder_keeping, ne_eq, List.map_eq_nil_iff] at stored
    obtain ⟨r', kept⟩ := List.exists_mem_of_ne_nil _ stored
    obtain ⟨member, same⟩ := List.mem_filter.mp kept
    have taken : contents.any (·.answersTo r.id) = true :=
      List.any_eq_true.mpr ⟨r', member, Record.answersTo_iff.mpr ⟨beq_iff_eq.mp same, short⟩⟩
    rw [save_keeping, if_pos taken]

end Store

namespace Record

def full (id : String) : Record :=
  ofSteps id [.contents "", .sourceLocation "http://localhost/",
    .metadataLocation "http://localhost/", .title (some ""), .countryCode "",
    .mediaType (some ""), .timestamps (.ofSeconds 0)]

/-- A record without gaps is complete, whatever a registry requires. -/
theorem full_built (registry : Registry) {id : String} (filled : Text.allBlank id = false) :
    (full id).Built registry := by
  have lacksNothing : (full id).lacking registry = [] := by
    rw [lacking, List.map_eq_nil_iff, List.filter_eq_nil_iff]
    intro a _
    cases a <;> simp [full, ofSteps, Step.applyOrKeep, Step.apply, blank, stamp, value]
  have identity : (full id).id = id := rfl
  refine ⟨id, _, finish_eq_ok_iff.mpr ⟨?_, rfl⟩⟩
  show (full id).fault? registry = none
  simp [fault?, identity, filled, lacksNothing]

end Record

namespace Store

variable {registry : Registry} {id : String}

theorem not_keepsOnce_of_long (registry : Registry) (filled : Text.allBlank id = false)
    (long : longestKeyword < id.utf8ByteSize) :
    ∃ s, Reachable registry s ∧ ¬ KeepsOnce registry id s := by
  have built := Record.full_built registry filled
  have identity : (Record.full id).id = id := rfl
  have unfound (r : Record) : r.answersTo id = false := by
    rw [Bool.eq_false_iff]
    intro found
    have short := (Record.answersTo_iff.mp found).2
    omega
  have saves (contents : List Record) : save (Record.full id) (keeping registry contents) =
      (.ok (), keeping registry (contents ++ [(Record.full id).floorDates])) := by
    have absent : contents.any (·.answersTo (Record.full id).id) = false :=
      List.any_eq_false.mpr fun r _ => by simp [identity, unfound r]
    rw [save_keeping, absent]
    rfl
  have new : Reachable registry (keeping registry []) := by
    rw [← inMemory_eq_keeping]
    exact .fresh .memory
  have once : Reachable registry (keeping registry [(Record.full id).floorDates]) := by
    have proper : (Write.save (Record.full id)).Proper registry := built
    have step := Reachable.step new proper
    rwa [Write.run, saves []] at step
  refine ⟨_, once, fun keeps => ?_⟩
  have stored : (keeping registry [(Record.full id).floorDates]).keptUnder id ≠ [] := by
    rw [keptUnder_keeping]
    simp [identity]
  have refused := keeps.refuses (Record.full id) built rfl stored
  rw [saves] at refused
  simp at refused

/-- The identities of which a store keeps one record at most, however it came about, and refuses a
second one, are those that are not too long for a keyword. -/
theorem keepsOnce_iff (registry : Registry) (filled : Text.allBlank id = false) :
    (∀ s, Reachable registry s → KeepsOnce registry id s) ↔ id.utf8ByteSize ≤ longestKeyword := by
  constructor
  · intro keeps
    refine Nat.le_of_not_lt fun long => ?_
    obtain ⟨s, reachable, fails⟩ := not_keepsOnce_of_long registry filled long
    exact fails (keeps s reachable)
  · exact fun short s reachable => keepsOnce_of_short short reachable

theorem keepsOnce_iff_short : Text.allBlank "a" = false ∧
    ((∀ s, Reachable Registry.standard s → KeepsOnce Registry.standard "a" s) ↔
      "a".utf8ByteSize ≤ longestKeyword) :=
  ⟨by decide, keepsOnce_iff Registry.standard (by decide)⟩

theorem utf8ByteSize_replicate (n : Nat) :
    (String.ofList (List.replicate n 'a')).utf8ByteSize = n := by
  induction n with
  | zero => rfl
  | succ n inductionHypothesis =>
      have letter : (String.ofList ['a']).utf8ByteSize = 1 := by decide
      rw [List.replicate_succ, ← List.singleton_append, String.ofList_append,
        String.utf8ByteSize_append, inductionHypothesis, letter, Nat.add_comm]

/-- A store keeps two records under an identity of one letter more than a keyword may have. -/
theorem not_keepsOnce_long_identity :
    ¬ ∀ s, Reachable Registry.standard s →
      KeepsOnce Registry.standard (String.ofList (List.replicate 65531 'a')) s := by
  intro keeps
  have filled : Text.allBlank (String.ofList (List.replicate 65531 'a')) = false := by
    rw [Text.allBlank, String.toList_ofList, List.replicate_succ, List.all_cons]
    rfl
  have long : longestKeyword < (String.ofList (List.replicate 65531 'a')).utf8ByteSize := by
    rw [utf8ByteSize_replicate]
    decide
  obtain ⟨s, reachable, fails⟩ := not_keepsOnce_of_long Registry.standard filled long
  exact fails (keeps s reachable)

end Store

end RecordSearch
