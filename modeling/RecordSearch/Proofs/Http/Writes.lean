import RecordSearch.Http.Service
import RecordSearch.Proofs.Service.Interleaving
import RecordSearch.Proofs.Text.Words

/-!
# What requests leave in the store

A request changes the store only if it puts a record under an identity and is answered with 200;
then the store keeps one record more, under an identity that was free.  So after any run of requests
the identities in the store are those of the requests that were answered in this way.
-/

namespace RecordSearch

open RecordSearch.Text

theorem Indexing.Job.run_cases (job : Job) (faults : Faults) (s : Store) :
    (∃ r, r.id = job.id ∧ (job.id.utf8ByteSize ≤ longestKeyword → s.keptUnder job.id = []) ∧
      job.run faults s =
        (.ok (), s.commit (s.index.records ++ [.ofRecord s.handle.registry r]))) ∨
    (∃ failure, (job.run faults s).1 = .error failure) ∧
      ((job.run faults s).2 = s ∨ (job.run faults s).2 = s.reload) := by
  rw [run_eq]
  have state := check_store job faults s
  rcases asked : job.check faults s with ⟨outcome, s'⟩
  rw [asked] at state
  change s' = s ∨ s' = s.reload at state
  cases outcome with
  | error failure => exact .inr ⟨⟨failure, rfl⟩, state⟩
  | ok _ =>
      -- Taking a new snapshot is nothing that the second step could tell.
      rcases finish_cases job faults s' with ⟨r, made, free, saved⟩ | ⟨failed, same⟩
      · left
        refine ⟨r, (id_and_complete_of_record made).1, ?_, ?_⟩
        · intro short
          rcases state with rfl | rfl
          · exact free short
          · exact free short
        · rcases state with rfl | rfl
          · exact saved
          · exact saved
      · right
        refine ⟨failed, ?_⟩
        rcases state with rfl | rfl
        · exact same
        · rcases same with same | same
          · exact .inr same
          · exact .inr same

namespace Admission

theorem utf8ByteSize_of_isIdentity {id : String} (proper : isIdentity id = true) :
    id.utf8ByteSize ≤ longestKeyword := by
  simp only [isIdentity, Bool.and_eq_true, decide_eq_true_eq] at proper
  have bytes := Text.utf8ByteSize_ofList_le id.toList
  rw [String.ofList_toList, String.length_toList, proper.1] at bytes
  exact Nat.le_trans bytes (by decide)

end Admission

namespace Http

/-- A request to put a record under an identity, which stands escaped at the end of its path. -/
def Request.Puts (r : Request) (id : String) : Prop :=
  r.method = "PUT" ∧ ∃ segment, r.path = "/api/v1/index/".toList ++ segment ∧
    segment ≠ [] ∧ '/' ∉ segment ∧
      id = String.ofList (Utf8.decodeLossy (Url.decodeBytes (Utf8.encode segment)))

namespace Route

variable {r : Request} {id : String}

theorem behind?_eq_some_iff {start s rest : List Char} :
    behind? start s = some rest ↔ s = start ++ rest := by
  unfold behind?
  constructor
  · intro found
    split at found
    · next initial =>
        obtain ⟨tail, rfl⟩ := List.isPrefixOf_iff_prefix.mp initial
        rw [List.drop_left] at found
        rw [Option.some.inj found]
    · cases found
  · rintro rfl
    rw [if_pos (List.isPrefixOf_iff_prefix.mpr (List.prefix_append start rest)), List.drop_left]

theorem identity?_eq_some_iff {segment : List Char} :
    identity? segment = some id ↔ segment ≠ [] ∧ '/' ∉ segment ∧
      id = String.ofList (Utf8.decodeLossy (Url.decodeBytes (Utf8.encode segment))) := by
  unfold identity?
  by_cases unfit : (segment.isEmpty || segment.contains '/') = true
  · rw [if_pos unfit]
    simp only [Bool.or_eq_true, List.isEmpty_iff, List.contains_iff_mem] at unfit
    constructor
    · intro found
      cases found
    · rintro ⟨filled, whole, -⟩
      exact absurd unfit (not_or.mpr ⟨filled, whole⟩)
  · rw [if_neg unfit, Option.some_inj, eq_comm]
    simp only [Bool.or_eq_true, List.isEmpty_iff, List.contains_iff_mem, not_or] at unfit
    simp [unfit]

theorem ofRequest?_eq_index_iff : ofRequest? r = some (index id) ↔ r.Puts id := by
  constructor
  · intro found
    unfold ofRequest? at found
    obtain ⟨rest, behind, chosen⟩ := Option.bind_eq_some_iff.mp found
    rw [behind?_eq_some_iff] at behind
    split at chosen
    · split_ifs at chosen <;> cases chosen
    · next put =>
        obtain ⟨other, named, same⟩ := Option.map_eq_some_iff.mp chosen
        obtain rfl : other = id := by injection same
        obtain ⟨segment, rest_eq, escaped⟩ := Option.bind_eq_some_iff.mp named
        rw [behind?_eq_some_iff] at rest_eq
        refine ⟨put, segment, ?_, identity?_eq_some_iff.mp escaped⟩
        rw [behind, rest_eq]
        rfl
    · cases chosen
  · rintro ⟨put, segment, path, escaped⟩
    have behind : behind? base r.path = some ("index/".toList ++ segment) :=
      behind?_eq_some_iff.mpr path
    have named : behind? "index/".toList ("index/".toList ++ segment) = some segment :=
      behind?_eq_some_iff.mpr rfl
    simp only [ofRequest?, behind, put, named, Option.bind_eq_bind, Option.bind_some,
      identity?_eq_some_iff.mpr escaped]
    rfl

theorem ofRequest?_stats (get : r.method = "GET") (path : r.path = "/api/v1/stats".toList) :
    ofRequest? r = some stats := by
  have behind : behind? base r.path = some "stats".toList := behind?_eq_some_iff.mpr path
  simp only [ofRequest?, behind, get, Option.bind_eq_bind, Option.bind_some]
  decide

end Route

structure Exchange where
  request : Request
  answer : Answer

namespace Exchange

/-- A record was put under an identity. -/
def Writes (e : Exchange) (id : String) : Prop := e.request.Puts id ∧ e.answer.status = 200

def written? (e : Exchange) : Option String :=
  match Route.ofRequest? e.request with
  | some (.index id) => if e.answer.status = 200 then some id else none
  | _ => none

theorem written?_eq_some_iff {e : Exchange} {id : String} :
    e.written? = some id ↔ e.Writes id := by
  rw [Writes, ← Route.ofRequest?_eq_index_iff]
  constructor
  · intro found
    unfold written? at found
    split at found
    · next other route =>
        split_ifs at found with accepted
        obtain rfl := Option.some.inj found
        exact ⟨route, accepted⟩
    · cases found
  · rintro ⟨route, accepted⟩
    simp only [written?, route, accepted, if_true]

end Exchange

/-- The identities under which records were put, in the order of the requests. -/
def written (log : List Exchange) : List String := log.filterMap Exchange.written?

theorem mem_written {log : List Exchange} {id : String} :
    id ∈ written log ↔ ∃ e ∈ log, e.Writes id := by
  simp only [written, List.mem_filterMap, Exchange.written?_eq_some_iff]

theorem Answer.status_ofFailure (failure : Failure) : (ofFailure failure).status ≠ 200 := by
  change failure.kind.status ≠ 200
  cases failure.kind <;> decide

end Http

namespace Services

open RecordSearch.Http

variable {s : Services} {r : Request}

/-- The handle belongs to the registry of the services and has seen all that the index keeps. -/
structure Current (s : Services) : Prop where
  registry : s.store.handle.registry = s.registry
  snapshot : s.store.handle.snapshot = s.store.index.records

theorem Current.reload (current : s.Current) : s.store.reload = s.store := by
  obtain ⟨config, registry, ⟨index, handle⟩, place⟩ := s
  rw [Store.reload, ← current.snapshot]

/-- The services after their store was given one record more. -/
def adding (s : Services) (record : Record) : Services where
  config := s.config
  registry := s.registry
  store := s.store.commit (s.store.index.records ++ [.ofRecord s.store.handle.registry record])
  place := s.place

/-- What a request can do to services. -/
inductive Reaction (s : Services) (r : Request) : Answer × Services → Prop
  | wrote {id : String} {record : Record} (puts : r.Puts id)
      (proper : Admission.isIdentity id = true) (identity : record.id = id)
      (free : s.store.keptUnder id = []) : Reaction s r (.done, s.adding record)
  | kept {answer : Answer} (refused : ∀ id, r.Puts id → answer.status ≠ 200) :
      Reaction s r (answer, s)

theorem identity_of_admitted {c : Config} {id : String} {body : List UInt8}
    (admitted : admitted c id r = .ok body) : Admission.isIdentity id = true := by
  obtain ⟨_, checked, -⟩ := Attempt.bind_eq_ok admitted
  unfold Admission.identity at checked
  split at checked
  · next proper => exact proper
  · cases checked

theorem act_of_same {α : Type} {action : Store → α × Store}
    (same : (action s.store).2 = s.store) : s.act action = ((action s.store).1, s) := by
  simp only [act, same]

theorem index_eq_act (current : s.Current) (w : Surroundings) (id : String)
    (request : IndexRequest) :
    s.index w.load w.guess w.now id request =
      s.act ((Indexing.Job.document (s.world w.load w.guess w.now) id request).run {}) := by
  have same : (Indexing.Job.document (s.world w.load w.guess w.now) id request).run {} s.store =
      Indexing.index s.registry Store.repository (s.world w.load w.guess w.now) id request
        s.store := by
    rw [← current.registry]
    rfl
  simp only [index, act, same]

theorem indexEnvelope_eq_act (current : s.Current) (id mediaType : String) (payload : Content) :
    s.indexEnvelope id mediaType payload =
      s.act ((Indexing.Job.envelope id mediaType payload).run {}) := by
  have same : (Indexing.Job.envelope id mediaType payload).run {} s.store =
      Indexing.indexEnvelope s.registry Store.repository id mediaType payload s.store := by
    rw [← current.registry]
    rfl
  simp only [indexEnvelope, act, same]

/-- The reaction to a request, by what came of it for the services. -/
def reply (result : Except Failure Unit × Services) : Answer × Services :=
  (answer (fun _ => .done) result.1, result.2)

theorem reaction_of_failure (failure : Failure) : Reaction s r (reply (.error failure, s)) := by
  apply Reaction.kept
  intro id _
  exact Answer.status_ofFailure failure

/-- A job either adds its record to the services or leaves them as they were. -/
theorem job_reaction (current : s.Current) (job : Indexing.Job) (puts : r.Puts job.id)
    (proper : Admission.isIdentity job.id = true) : Reaction s r (reply (s.act (job.run {}))) := by
  rcases job.run_cases {} s.store with ⟨record, identity, free, done⟩ | ⟨⟨failure, failed⟩, same⟩
  · have ended : s.act (job.run {}) = (.ok (), s.adding record) := by
      simp only [act, done]
      rfl
    rw [ended]
    exact .wrote puts proper identity (free (Admission.utf8ByteSize_of_isIdentity proper))
  · rw [current.reload, or_self] at same
    rw [act_of_same same, failed]
    exact reaction_of_failure failure

theorem write_reaction (current : s.Current) (w : Surroundings) {id : String} (puts : r.Puts id)
    (proper : Admission.isIdentity id = true) (body : List UInt8) :
    Reaction s r (reply (s.write w id r body)) := by
  unfold write
  cases s.config.writeMode with
  | extraction =>
      dsimp only
      cases IndexBody.requestOf body with
      | error failure => exact reaction_of_failure failure
      | ok request =>
          dsimp only
          rw [index_eq_act current]
          exact job_reaction current (.document (s.world w.load w.guess w.now) id request) puts
            proper
  | envelope =>
      dsimp only
      cases Admission.envelope s.config.limits.payloadBytes (r.header? "content-type")
        body.length with
      | error failure => exact reaction_of_failure failure
      | ok mediaType =>
          dsimp only
          rw [indexEnvelope_eq_act current]
          exact job_reaction current (.envelope id mediaType (.ok body)) puts proper

theorem put_reaction (current : s.Current) (w : Surroundings) {id : String} (puts : r.Puts id) :
    Reaction s r (s.put w id r) := by
  unfold put
  cases checked : admitted s.config id r with
  | error failure => exact reaction_of_failure failure
  | ok body => exact write_reaction current w puts (identity_of_admitted checked) body

theorem search_snd (current : s.Current) (elapsed : String) : (s.search elapsed r).2 = s := by
  unfold search
  cases queryOf s.config.limits.queryLength r with
  | error failure => rfl
  | ok q =>
      have same : (Search.find s.registry Store.repository s.config.locator q s.store).2 =
          s.store := by
        simp only [Search.find, Search.records]
        cases PreparedQuery.ofText s.registry q with
        | error failure => rfl
        | ok prepared =>
            dsimp only
            have state : (Store.repository.query prepared.query s.store).2 = s.store :=
              current.reload
            rcases queried : Store.repository.query prepared.query s.store with ⟨hits | fault, s'⟩
            · rw [queried] at state
              exact state
            · rw [queried] at state
              exact state
      simp only [find, act_of_same same]

theorem stats_eq (current : s.Current) :
    s.stats = (s.statsAnswer s.store.index.records.length, s) := by
  have counted : s.store.count = (.ok s.store.index.records.length, s.store) := by
    simp only [Store.count_eq, current.reload, current.snapshot]
  simp only [stats, counted]

theorem respond_snd (current : s.Current) (w : Surroundings) (other : ∀ id, ¬ r.Puts id) :
    (s.respond w r).2 = s := by
  unfold respond
  split
  · rfl
  · rfl
  · exact search_snd current w.elapsed
  · next id route => exact absurd (Route.ofRequest?_eq_index_iff.mp route) (other id)
  · exact congrArg Prod.snd (stats_eq current)
  · rfl

theorem respond_reaction (current : s.Current) (w : Surroundings) (r : Request) :
    Reaction s r (s.respond w r) := by
  by_cases puts : ∃ id, r.Puts id
  · obtain ⟨id, puts⟩ := puts
    simp only [respond, Route.ofRequest?_eq_index_iff.mpr puts]
    exact put_reaction current w puts
  · have other : ∀ id, ¬ r.Puts id := not_exists.mp puts
    have same := respond_snd current w other
    rcases answered : s.respond w r with ⟨a, s'⟩
    rw [answered] at same
    rw [show s' = s from same]
    apply Reaction.kept
    intro id put
    exact absurd put (other id)

/-- The requests that services answer one after another, with their answers, and the services that
they leave. -/
def serve : List (Surroundings × Request) → Services → List Exchange × Services
  | [], s => ([], s)
  | (w, r) :: requests, s =>
      let now := s.respond w r
      let later := serve requests now.2
      (⟨r, now.1⟩ :: later.1, later.2)

theorem serve_eq_respondAll (w : Surroundings) (requests : List Request) (s : Services) :
    ((serve (requests.map (w, ·)) s).1.map Exchange.answer, (serve (requests.map (w, ·)) s).2) =
      s.respondAll w requests := by
  induction requests generalizing s with
  | nil => rfl
  | cons r requests inductionHypothesis =>
      have later := inductionHypothesis (s.respond w r).2
      simp only [List.map_cons, serve, respondAll, ← later]

/-- The store has a record for each identity that was written, and no others. -/
structure Reflects (s : Services) (log : List Exchange) : Prop where
  current : s.Current
  identities : s.store.index.records.map (·.text? .id) = (written log).map some
  distinct : (written log).Nodup
  proper : ∀ id ∈ written log, Admission.isIdentity id = true

theorem written_append (log others : List Exchange) :
    written (log ++ others) = written log ++ written others :=
  List.filterMap_append

theorem Reaction.reflects {log : List Exchange} {after : Answer × Services}
    (reaction : Reaction s r after) (reflects : s.Reflects log) :
    after.2.Reflects (log ++ [⟨r, after.1⟩]) := by
  cases reaction with
  | @wrote id record puts proper identity free =>
      have entry : written [⟨r, .done⟩] = [id] := by
        have writes : Exchange.Writes ⟨r, .done⟩ id := ⟨puts, rfl⟩
        rw [written, List.filterMap_cons, Exchange.written?_eq_some_iff.mpr writes]
        rfl
      have new : id ∉ written log := by
        intro old
        have held : some id ∈ s.store.index.records.map (·.text? .id) := by
          rw [reflects.identities]
          exact List.mem_map_of_mem old
        obtain ⟨d, member, same⟩ := List.mem_map.mp held
        have kept : d ∈ s.store.keptUnder id := by
          apply List.mem_filter.mpr
          exact ⟨member, beq_iff_eq.mpr same⟩
        rw [free] at kept
        exact List.not_mem_nil kept
      constructor
      · exact ⟨reflects.current.registry, rfl⟩
      · have added : (s.adding record).store.index.records.map (·.text? .id) =
            s.store.index.records.map (·.text? .id) ++ [some id] := by
          have held : (Stored.ofRecord s.store.handle.registry record).text? .id = some id := by
            rw [Stored.text?_ofRecord, ← identity]
            rfl
          rw [← held]
          exact List.map_append
        rw [added, reflects.identities, written_append, entry, List.map_append]
        rfl
      · rw [written_append, entry]
        apply List.Nodup.append reflects.distinct (List.nodup_singleton id)
        intro other old same
        rw [List.mem_singleton.mp same] at old
        exact new old
      · intro other member
        rw [written_append, entry, List.mem_append] at member
        rcases member with old | same
        · exact reflects.proper other old
        · rw [List.mem_singleton.mp same]
          exact proper
  | @kept answer refused =>
      have entry : written [⟨r, answer⟩] = [] := by
        apply List.eq_nil_iff_forall_not_mem.mpr
        intro id member
        obtain ⟨e, among, writes⟩ := mem_written.mp member
        obtain rfl := List.mem_singleton.mp among
        exact refused id writes.1 writes.2
      have same : written (log ++ [⟨r, answer⟩]) = written log := by
        rw [written_append, entry, List.append_nil]
      constructor
      · exact reflects.current
      · rw [same]
        exact reflects.identities
      · rw [same]
        exact reflects.distinct
      · rw [same]
        exact reflects.proper

/-- Whatever is requested, the store goes on to have a record for each identity that was
written. -/
theorem serve_reflects (requests : List (Surroundings × Request)) {log : List Exchange}
    (reflects : s.Reflects log) :
    (serve requests s).2.Reflects (log ++ (serve requests s).1) := by
  induction requests generalizing s log with
  | nil =>
      rw [serve, List.append_nil]
      exact reflects
  | cons request requests inductionHypothesis =>
      obtain ⟨w, r⟩ := request
      have now := (respond_reaction reflects.current w r).reflects reflects
      have later := inductionHypothesis now
      rw [List.append_assoc] at later
      exact later

theorem respond_snd_of_not_writes (current : s.Current) (w : Surroundings)
    (refused : ∀ id, ¬ Exchange.Writes ⟨r, (s.respond w r).1⟩ id) : (s.respond w r).2 = s := by
  have reaction := respond_reaction current w r
  rcases answered : s.respond w r with ⟨a, s'⟩
  rw [answered] at reaction refused
  cases reaction with
  | @wrote id _ puts => exact absurd ⟨puts, rfl⟩ (refused id)
  | kept => rfl

structure New (s : Services) : Prop where
  current : s.Current
  empty : s.store.index.records = []

theorem handle_of_openIndex {registry : Registry} {heapBytes : Nat} {path : String}
    {disk disk' : Disk} {place : Names} {store : Store}
    (opened : disk.openIndex registry heapBytes path = (.ok (place, store), disk')) :
    store.handle.registry = registry ∧ store.handle.snapshot = store.index.records := by
  unfold Disk.openIndex at opened
  dsimp only at opened
  split at opened
  · cases opened
  · split at opened
    · cases opened
    · next found =>
        cases opened
        rw [Store.eq_of_openDisk found]
        exact ⟨rfl, rfl⟩

theorem new_of_start {config : Config} {disk disk' : Disk}
    (started : start config disk = (.ok s, disk')) (empty : s.store.index.records = []) :
    s.New := by
  refine ⟨?_, empty⟩
  unfold start at started
  split at started
  · cases started
  · split at started
    · cases started
      exact ⟨rfl, rfl⟩
    · split at started
      · cases started
      · next opened =>
          cases started
          exact ⟨(handle_of_openIndex opened).1, (handle_of_openIndex opened).2⟩

theorem total_statsAnswer (s : Services) (count : Nat) :
    ∃ document, s.statsAnswer count = .document document ∧
      Json.get? "total_docs" document = some (.nat count) :=
  ⟨_, rfl, rfl⟩

/-- The requests that put a record and are answered with 200 are the writes: the store has a record
for each identity that was written, none was written twice, and nothing else that is requested
changes anything.  The statistics tell the number of writes. -/
theorem serve_keeps_written (new : s.New) (requests : List (Surroundings × Request)) :
    let log := (serve requests s).1
    let after := (serve requests s).2
    (∀ id, some id ∈ after.store.index.records.map (·.text? .id) ↔ ∃ e ∈ log, e.Writes id) ∧
    after.store.index.records.map (·.text? .id) = (written log).map some ∧
    (written log).Nodup ∧
    (∀ id ∈ written log, id.length = 32 ∧
      ∀ c ∈ id.toList, isAsciiLetter c = true ∨ isAsciiDigit c = true) ∧
    (∀ w r, (∀ id, ¬ Exchange.Writes ⟨r, (after.respond w r).1⟩ id) →
      (after.respond w r).2 = after) ∧
    (∀ w r, r.method = "GET" → r.path = "/api/v1/stats".toList →
      ∃ document, (after.respond w r).1 = .document document ∧
        Json.get? "total_docs" document = some (.nat (written log).length)) := by
  intro log after
  have reflects : after.Reflects log := by
    have first : s.Reflects [] := by
      constructor
      · exact new.current
      · rw [new.empty]
        rfl
      · exact List.nodup_nil
      · exact List.forall_mem_nil _
    have last := serve_reflects requests first
    rwa [List.nil_append] at last
  refine ⟨?_, reflects.identities, reflects.distinct, ?_, ?_, ?_⟩
  · intro id
    rw [reflects.identities, List.mem_map_of_injective (Option.some_injective String), mem_written]
  · intro id member
    have proper := reflects.proper id member
    simp only [Admission.isIdentity, Bool.and_eq_true, decide_eq_true_eq, List.all_eq_true,
      Bool.or_eq_true] at proper
    exact proper
  · intro w r refused
    exact respond_snd_of_not_writes reflects.current w refused
  · intro w r get path
    have number : after.store.index.records.length = (written log).length := by
      have lengths := congrArg List.length reflects.identities
      rwa [List.length_map, List.length_map] at lengths
    obtain ⟨document, answered, total⟩ := total_statsAnswer after (written log).length
    refine ⟨document, ?_, total⟩
    rw [← answered]
    simp only [respond, Route.ofRequest?_stats get path, stats_eq reflects.current, number]

/-- A record that is put twice is counted once. -/
theorem serve_keeps_written_twice :
    let s : Services := ⟨{ writeMode := .envelope }, .standard, .inMemory .standard, none⟩
    let w : Surroundings := ⟨fun _ => .error ⟨"no such host", []⟩, fun _ => none, .ofSeconds 0, "0"⟩
    let put : Request :=
      { method := "PUT", target := "/api/v1/index/0123456789abcdefghijABCDEFGHIJ00",
        headers := [("Accept-Version", "0.1.0"), ("Content-Type", "application/json")],
        body := Utf8.encode "\x7b\"ext.extracted.text\":\"a\"\x7d".toList }
    start { writeMode := .envelope } ⟨{}, []⟩ = (.ok s, ⟨{}, []⟩) ∧
      (serve [(w, put), (w, put)] s).2.store.index.records.map (·.text? .id) =
        ["0123456789abcdefghijABCDEFGHIJ00"].map some ∧
      ∃ document, ((serve [(w, put), (w, put)] s).2.respond w
          { target := "/api/v1/stats" }).1 = .document document ∧
        Json.get? "total_docs" document = some (.nat 1) := by
  intro s w put
  have started : start { writeMode := .envelope } ⟨{}, []⟩ = (.ok s, ⟨{}, []⟩) := rfl
  have once : written (serve [(w, put), (w, put)] s).1 = ["0123456789abcdefghijABCDEFGHIJ00"] := by
    decide +kernel
  have path : Request.path { target := "/api/v1/stats" } = "/api/v1/stats".toList := by
    decide +kernel
  obtain ⟨-, identities, -, -, -, statistics⟩ :=
    serve_keeps_written (new_of_start started rfl) [(w, put), (w, put)]
  rw [once] at identities statistics
  exact ⟨started, identities, statistics w { target := "/api/v1/stats" } rfl path⟩

end Services

end RecordSearch
