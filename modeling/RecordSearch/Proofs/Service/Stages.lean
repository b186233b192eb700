import RecordSearch.Proofs.Store.Kept
import RecordSearch.Proofs.Store.Transaction
import RecordSearch.Proofs.Text.Trim
import RecordSearch.Store.Repository

/-!
# The stages of indexing

A request to index goes through stages, each of which may fail for reasons of its own.  The first
stage that fails decides the kind of the failure, and then the store keeps what it kept before.  If
none fails, the store keeps one record more, which is found under the identity of the request.

A request whose stages all pass may fail still: its record is published, and the store cannot look
at it.  Then the failure is that of a store which saves nothing, and the record is kept all the same.
-/

namespace RecordSearch

namespace Indexing

open RecordSearch.Store (keptUnder)

inductive Stage where
  | mediaType
  | precheck
  | metadata
  | source
  | extraction
  | payload
  | contents
  | attributes
  | save

namespace Stage

def ofDocument : List Stage := [precheck, metadata, source, extraction, attributes, save]

def ofEnvelope : List Stage := [mediaType, precheck, payload, contents, attributes, save]

end Stage

def documentRecord (w : World) (id : String) (request : IndexRequest)
    (metadata contents : String) : Record where
  id := id
  contents := some contents
  sourceLocation := some request.source.text
  metadataLocation := some request.metadata.text
  title := if Text.allBlank metadata then none else some (Text.trim metadata)
  createdAt := some w.now.floor
  modifiedAt := some w.now.floor
  mediaType := request.mediaType.or (w.guess request.source.path)

def envelopeRecord (id mediaType contents : String) : Record where
  id := id
  contents := some contents
  mediaType := some mediaType

/-- The text that comes out of the source of a document. -/
def Extracts (w : World) (request : IndexRequest) (contents : String) : Prop :=
  ∃ content, w.load request.source = .ok content ∧
    Extraction.extract w.extractor (request.mediaType.or (w.guess request.source.path))
      content = .ok contents

/-- The text that an envelope carries. -/
def Carries (payload : Content) (contents : String) : Prop :=
  ∃ bytes t, payload = .ok bytes ∧ Json.readSound bytes = some t ∧
    Json.get? textKey t = some (.text contents)

/-- What is wrong when a store is asked for an identity. -/
def precheckFault (faults : Faults) (m : Mishaps) (id : String) (s : Store) : Option FailureKind :=
  match faults.holds with
  | some (.fails _) => some .storeUnavailable
  | some .absent => none
  | none =>
      if m.lookFault?.isSome then some .storeUnavailable
      else if s.keptUnder id = [] then none
      else some .duplicateIdentity

def kindOf : StoreFault → FailureKind
  | .duplicateKey _ => .duplicateIdentity
  | _ => .storeUnavailable

/-- What is wrong when a record is saved. -/
def saveFault (faults : Faults) (m : Mishaps) (id : String) (s : Store) : Option FailureKind :=
  match faults.save with
  | some fault => some (kindOf fault)
  | none =>
      if (m.lockFault? s.handle).isSome || m.lookFault?.isSome then some .storeUnavailable
      else if s.keptUnder id = [] then m.writeFault?.map fun _ => .storeUnavailable
      else some .duplicateIdentity

/-- What is wrong when a record was saved and the store looks at it. -/
def lookFault (m : Mishaps) : Option FailureKind := m.refresh.map fun _ => .storeUnavailable

def attributesFault (registry : Registry) (r : Record) : Option FailureKind :=
  (r.fault? registry).map fun _ => .malformedPayload

/-- What is wrong with a document at a stage. A stage that needs what an earlier one could not give
has no fault of its own. -/
def documentFault (faults : Faults) (m : Troubles) (w : World) (id : String)
    (request : IndexRequest) (s : Store) : Stage → Option FailureKind
  | .precheck => precheckFault faults m.holds id s
  | .metadata =>
      match readMetadata w.load request.metadata with
      | .ok _ => none
      | .error _ => some .sourceUnreadable
  | .source =>
      match w.load request.source with
      | .ok _ => none
      | .error _ => some .extractionFailed
  | .extraction =>
      match w.load request.source with
      | .ok content =>
          match Extraction.extract w.extractor
            (request.mediaType.or (w.guess request.source.path)) content with
          | .ok _ => none
          | .error (.unsupportedType _) => some .unsupportedMediaType
          | .error _ => some .extractionFailed
      | .error _ => none
  | .attributes =>
      match readMetadata w.load request.metadata with
      | .ok metadata =>
          -- Which text the source has plays no part in what is wrong with the record.
          attributesFault s.handle.registry (documentRecord w id request metadata "")
      | .error _ => none
  | .save => saveFault faults m.save id s
  | _ => none

def envelopeFault (faults : Faults) (m : Troubles) (id mediaType : String) (payload : Content)
    (s : Store) : Stage → Option FailureKind
  | .mediaType =>
      if MediaType.essence mediaType = envelopeType then none else some .unsupportedMediaType
  | .precheck => precheckFault faults m.holds id s
  | .payload =>
      match payload with
      | .ok bytes => if Json.readSound bytes = none then some .malformedPayload else none
      | .error _ => some .malformedPayload
  | .contents =>
      match payload with
      | .ok bytes =>
          match (Json.readSound bytes).bind (Json.get? textKey) with
          | some (.text _) => none
          | _ => some .malformedPayload
      | .error _ => none
  | .attributes => attributesFault s.handle.registry (envelopeRecord id mediaType "")
  | .save => saveFault faults m.save id s
  | _ => none

/-- What a request to index comes to, where `fault` is that of the first stage that fails and `late`
that of the look at the saved record.  It ends with the first of the two.  If a stage fails, what is
kept stays as it was, and else one record of a kind is kept besides and found, be there a late fault
or not.  Nothing waits to be published but what could not be taken back. -/
structure Settles (m : Mishaps) (s : Store) (id : String) (assembled : Record → Prop)
    (fault late : Option FailureKind) (result : Except Failure Unit × Transaction) : Prop where
  kind : result.1.mapError Failure.kind = (fault.or late).elim (.ok ()) .error
  refused : fault ≠ none → result.2.store.index = s.index
  stored : fault = none → ∃ r, assembled r ∧
    result.2.store.index.layout = s.index.layout ∧
    result.2.store.index.records = s.index.records ++ [.ofRecord s.handle.registry r] ∧
    (Store.find id result.2.store).1 = .ok (some r)
  settled : m.rollback = none → result.2.draft = result.2.store.index.records

/-- A record that is made of a request, or the fault that keeps it from being made. -/
structure Makes (registry : Registry) (id : String) (assembled : Record → Prop)
    (fault : Option FailureKind) (made : Except Failure Record) : Prop where
  failed : ∀ failure, made = .error failure → fault = some failure.kind
  done : ∀ r, made = .ok r →
    fault = none ∧ r.id = id ∧ r.Complete registry ∧ assembled r.floorDates

variable {s : Store} {id : String} {faults : Faults} {m : Troubles} {registry : Registry}

section Records

theorem isEmpty_trim (text : String) : (Text.trim text).isEmpty = Text.allBlank text := by
  rw [Text.trim, Text.allBlank, Bool.eq_iff_iff, List.all_eq_true, String.isEmpty_iff,
    ← String.toList_eq_nil_iff, String.toList_ofList]
  exact Text.trimBy_eq_nil_iff

theorem titleOf_eq (metadata : String) :
    titleOf metadata = if Text.allBlank metadata then none else some (Text.trim metadata) := by
  simp only [titleOf, isEmpty_trim]

theorem complete_cases (registry : Registry) (r : Record) :
    (∃ failure, complete registry r = .error failure ∧
      attributesFault registry r = some failure.kind) ∨
    (complete registry r = .ok r ∧ attributesFault registry r = none ∧ r.Complete registry) := by
  cases fault : r.fault? registry with
  | none =>
      right
      have finished : r.finish registry = .ok r := Record.finish_eq_ok_iff.mpr ⟨fault, rfl⟩
      refine ⟨?_, ?_, finished⟩
      · simp only [complete, finished]
      · simp only [attributesFault, fault, Option.map_none]
  | some reason =>
      left
      have unfinished : r.finish registry = .error reason := by
        simp only [Record.finish, fault]
      refine ⟨_, by simp only [complete, unfinished]; rfl, ?_⟩
      simp only [attributesFault, fault, Option.map_some]
      rfl

theorem complete_makes {r : Record} {id : String} {assembled : Record → Prop}
    (identity : r.id = id) (proper : assembled r.floorDates) :
    Makes registry id assembled (attributesFault registry r) (complete registry r) := by
  rcases complete_cases registry r with ⟨failure, failed, kind⟩ | ⟨done, none, whole⟩
  · rw [failed, kind]
    constructor
    · rintro _ ⟨⟩
      rfl
    · rintro _ ⟨⟩
  · rw [done, none]
    constructor
    · rintro _ ⟨⟩
    · rintro _ ⟨⟩
      exact ⟨rfl, identity, whole, proper⟩

theorem attributesFault_congr {r r' : Record} (identity : r.id = r'.id)
    (presence : ∀ a, (r.value a).isNone = (r'.value a).isNone) :
    attributesFault registry r = attributesFault registry r' := by
  rw [attributesFault, attributesFault, Record.fault?_congr identity presence]

/-- The record of a document as it is saved: its dates may still be those of a leap second. -/
def stampedRecord (w : World) (id : String) (request : IndexRequest)
    (metadata contents : String) : Record :=
  Record.stamp w.now
    { id := id, contents := some contents, sourceLocation := some request.source.text,
      metadataLocation := some request.metadata.text, title := titleOf metadata,
      mediaType := request.mediaType.or (w.guess request.source.path) }

theorem floorDates_stampedRecord (w : World) (id : String) (request : IndexRequest)
    (metadata contents : String) :
    (stampedRecord w id request metadata contents).floorDates =
      documentRecord w id request metadata contents := by
  rw [stampedRecord, titleOf_eq]
  rfl

theorem attributesFault_stampedRecord (w : World) (id : String) (request : IndexRequest)
    (metadata contents : String) (registry : Registry) :
    attributesFault registry (stampedRecord w id request metadata contents) =
      attributesFault registry (documentRecord w id request metadata "") := by
  refine attributesFault_congr rfl fun a => ?_
  rw [stampedRecord, titleOf_eq]
  cases a <;> rfl

/-- A document fails at the first of its own stages that has a fault, or else its record is made. -/
theorem recordOf_makes (faults : Faults) (m : Troubles) (w : World) (id : String)
    (request : IndexRequest) (s : Store) :
    Makes s.handle.registry id
      (fun r => ∃ metadata contents, readMetadata w.load request.metadata = .ok metadata ∧
        Extracts w request contents ∧ r = documentRecord w id request metadata contents)
      ([Stage.metadata, .source, .extraction, .attributes].findSome?
        (documentFault faults m w id request s))
      (recordOf s.handle.registry w id request) := by
  cases metadata : readMetadata w.load request.metadata with
  | error fault =>
      constructor <;> simp [recordOf, documentFault, metadata, Failure.kind]
  | ok title =>
  cases loaded : w.load request.source with
  | error fault =>
      constructor <;> simp [recordOf, documentFault, metadata, readSource, loaded, Failure.kind]
  | ok content =>
  cases extracted : Extraction.extract w.extractor
      (request.mediaType.or (w.guess request.source.path)) content with
  | error fault =>
      cases fault <;> constructor <;>
        simp [recordOf, documentFault, metadata, readSource, loaded, extracted, Failure.kind]
  | ok contents =>
      have made : recordOf s.handle.registry w id request =
          complete s.handle.registry (stampedRecord w id request title contents) := by
        simp only [recordOf, metadata, readSource, loaded, extracted]
        rfl
      have stages : [Stage.metadata, .source, .extraction, .attributes].findSome?
          (documentFault faults m w id request s) =
            attributesFault s.handle.registry (stampedRecord w id request title contents) := by
        simp only [List.findSome?_cons, List.findSome?_nil, documentFault, metadata, loaded,
          extracted, attributesFault_stampedRecord]
        cases attributesFault s.handle.registry (documentRecord w id request title "") <;> rfl
      rw [made, stages]
      exact complete_makes rfl ⟨title, contents, rfl, ⟨content, loaded, extracted⟩,
        floorDates_stampedRecord w id request title contents⟩

/-- An envelope fails at the first of its own stages with a fault, or else its record is made. -/
theorem recordOfEnvelope_makes (faults : Faults) (m : Troubles) (id mediaType : String)
    (payload : Content) (s : Store) :
    Makes s.handle.registry id
      (fun r => ∃ contents, Carries payload contents ∧ r = envelopeRecord id mediaType contents)
      ([Stage.payload, .contents, .attributes].findSome?
        (envelopeFault faults m id mediaType payload s))
      (recordOfEnvelope s.handle.registry id mediaType payload) := by
  cases payload with
  | error fault =>
      constructor
      · rintro _ ⟨⟩
        rfl
      · rintro _ ⟨⟩
  | ok bytes =>
  cases parsed : Json.readSound bytes with
  | none =>
      constructor <;>
        simp [recordOfEnvelope, envelopeText, envelopeDocument, envelopeFault, parsed, Failure.kind]
  | some t =>
  cases member : Json.get? textKey t with
  | none =>
      constructor <;>
        simp [recordOfEnvelope, envelopeText, envelopeDocument, envelopeFault, parsed, member,
          Failure.kind]
  | some value =>
  cases value with
  | text contents =>
      have made : recordOfEnvelope s.handle.registry id mediaType (.ok bytes) =
          complete s.handle.registry (envelopeRecord id mediaType contents) := by
        simp only [recordOfEnvelope, envelopeText, envelopeDocument, parsed, member]
        rfl
      have stages : [Stage.payload, .contents, .attributes].findSome?
          (envelopeFault faults m id mediaType (.ok bytes) s) =
            attributesFault s.handle.registry (envelopeRecord id mediaType contents) := by
        have same : attributesFault s.handle.registry (envelopeRecord id mediaType "") =
            attributesFault s.handle.registry (envelopeRecord id mediaType contents) :=
          attributesFault_congr rfl fun a => by cases a <;> rfl
        simp only [List.findSome?_cons, List.findSome?_nil, envelopeFault, parsed, member,
          Option.bind_some, reduceCtorEq, if_false, same]
        cases attributesFault s.handle.registry (envelopeRecord id mediaType contents) <;> rfl
      rw [made, stages]
      exact complete_makes rfl ⟨contents, ⟨bytes, t, rfl, parsed, member⟩, rfl⟩
  | _ =>
      constructor <;>
        simp [recordOfEnvelope, envelopeText, envelopeDocument, envelopeFault, parsed, member,
          Failure.kind]

end Records

section Requests

theorem precheck_state {σ : Type} (store : Repository σ) (id : String) (s : σ) :
    (precheck store id s).2 = (store.holds id s).2 := by
  unfold precheck
  rcases store.holds id s with ⟨_ | _ | _, s'⟩ <;> rfl

/-- A request asks the store, whose answer may be out of its hands. -/
theorem precheck_cases (short : id.utf8ByteSize ≤ longestKeyword) (faults : Faults) (m : Troubles)
    (s : Store) :
    let asked := precheck ((Transaction.repository m).withFaults faults) id s.transaction
    asked.1.mapError Failure.kind =
        (precheckFault faults m.holds id s).elim (.ok ()) .error ∧
      (asked.2 = s.transaction ∨ asked.2 = s.reload.transaction) := by
  intro asked
  cases holds : faults.holds with
  | some lookup =>
      simp only [asked, precheck, Repository.withFaults, precheckFault, holds]
      cases lookup with
      | fails fault => exact ⟨rfl, .inl rfl⟩
      | absent => exact ⟨rfl, .inl rfl⟩
  | none =>
  have call : ((Transaction.repository m).withFaults faults).holds id =
      Transaction.holds m.holds id := by
    simp only [Repository.withFaults, holds]
    rfl
  rcases Transaction.holds_cases m.holds id s with ⟨fault, t, looks, failed, same⟩ | ⟨looks, found⟩
  · have ended : asked = (.error (.storeUnavailable "Unable to query index" fault), t) := by
      simp only [asked, precheck, call, failed]
    rw [ended]
    refine ⟨?_, same⟩
    simp only [precheckFault, holds, looks, Option.isSome_some, if_true]
    rfl
  · have ended : asked = (if s.keptUnder id = [] then .ok () else .error (.duplicateIdentity id),
        s.reload.transaction) := by
      simp only [asked, precheck, call, found, Store.withIdentity_reload short]
      cases s.keptUnder id <;> rfl
    rw [ended]
    refine ⟨?_, .inr rfl⟩
    simp only [precheckFault, holds, looks, Option.isSome_none, Bool.false_eq_true, if_false]
    cases s.keptUnder id <;> rfl

theorem commit_of_error {σ : Type} {store : Repository σ} {r : Record} {s s' : σ}
    {fault : StoreFault} (failed : store.save r s = (.error fault, s')) :
    ∃ failure, commit store r s = (.error failure, s') ∧ failure.kind = kindOf fault := by
  rw [commit, failed]
  cases fault <;> exact ⟨_, rfl, rfl⟩

theorem save_of_fault {σ : Type} {fault : StoreFault} (stands : faults.save = some fault)
    (store : Repository σ) (r : Record) (s : σ) :
    (store.withFaults faults).save r s = (.error fault, s) := by
  simp only [Repository.withFaults, stands, Action.orFault]

theorem save_of_faultless {σ : Type} (faultless : faults.save = none) (store : Repository σ)
    (r : Record) (s : σ) : (store.withFaults faults).save r s = store.save r s := by
  simp only [Repository.withFaults, faultless, Action.orFault]

theorem kind_of_lockFault {m : Mishaps} {h : Handle} {fault : StoreFault}
    (locked : m.lockFault? h = some fault) : kindOf fault = .storeUnavailable := by
  rw [Mishaps.lockFault?] at locked
  split at locked
  · cases locked
    rfl
  · split at locked <;> cases locked
    rfl

/-- Only a record that is there already is refused as a duplicate. -/
theorem map_saveFault? (m : Mishaps) {r : Record} (short : r.id.utf8ByteSize ≤ longestKeyword)
    (s : Store) : (m.saveFault? r s).map kindOf = saveFault {} m r.id s := by
  rw [Mishaps.saveFault?, saveFault, Store.withIdentity_reload short]
  cases locked : m.lockFault? s.handle with
  | some fault =>
      have kind := kind_of_lockFault locked
      simp only [Option.some_or, Option.map_some, kind, Option.isSome_some, Bool.true_or, if_true]
  | none =>
  cases looked : m.reload.or m.search with
  | some text => simp [Mishaps.lookFault?, looked, kindOf]
  | none =>
  cases kept : s.keptUnder r.id with
  | nil =>
      cases writing : m.write.or m.commit <;>
        simp [Mishaps.lookFault?, Mishaps.writeFault?, looked, writing, kindOf]
  | cons d others => simp [Mishaps.lookFault?, looked, kindOf]

theorem keptUnder_of_saveFault {m : Mishaps} (fine : saveFault faults m id s = none) :
    s.keptUnder id = [] := by
  by_contra taken
  rw [saveFault] at fine
  split at fine
  · cases fine
  · rw [if_neg taken] at fine
    split at fine <;> cases fine

/-- A record that was saved is there, and the only thing that fails after that is to look at it. -/
theorem commit_of_published {store : Repository Transaction} {r : Record} {t : Transaction}
    {m : Mishaps} {records : List Stored}
    (done : store.save r t = Transaction.published m s records ()) :
    (commit store r t).1.mapError Failure.kind = (lookFault m).elim (.ok ()) .error ∧
      (commit store r t).2 = (Transaction.published m s records ()).2 := by
  cases refresh : m.refresh with
  | some text =>
      rw [commit, done, Transaction.published, lookFault, refresh]
      exact ⟨rfl, rfl⟩
  | none =>
      rw [commit, done, Transaction.published, lookFault, refresh]
      exact ⟨rfl, rfl⟩

/-- A record is published if nothing stands against it. What stands against it is told only for
identities that are not too long: a store never finds the others. -/
theorem commit_cases (faults : Faults) (m : Troubles) (r : Record) (s : Store) :
    let saved := commit ((Transaction.repository m).withFaults faults) r s.transaction
    (∃ failure, saved.1 = .error failure ∧ Transaction.Untouched m.save s saved.2 ∧
      (r.id.utf8ByteSize ≤ longestKeyword →
        saveFault faults m.save r.id s = some failure.kind)) ∨
    (saved.1.mapError Failure.kind = (lookFault m.save).elim (.ok ()) .error ∧
      saved.2 = (Transaction.published m.save s.reload
        (s.index.records ++ [.ofRecord s.handle.registry r]) ()).2 ∧
      (r.id.utf8ByteSize ≤ longestKeyword → saveFault faults m.save r.id s = none)) := by
  intro saved
  cases standing : faults.save with
  | some fault =>
      obtain ⟨failure, ended, kind⟩ := commit_of_error
        (save_of_fault standing (Transaction.repository m) r s.transaction)
      have ended : saved = (.error failure, s.transaction) := ended
      left
      rw [ended]
      refine ⟨failure, rfl, .of_eq (.inl rfl), fun _ => ?_⟩
      rw [saveFault, standing, kind]
  | none =>
  have call := save_of_faultless standing (Transaction.repository m) r s.transaction
  have kinds (short : r.id.utf8ByteSize ≤ longestKeyword) :
      saveFault faults m.save r.id s = (m.save.saveFault? r s).map kindOf := by
    rw [map_saveFault? m.save short, saveFault, saveFault, standing]
  rcases Transaction.save_cases m.save r s with ⟨fault, t, why, failed, untouched⟩ | ⟨why, done⟩
  · obtain ⟨failure, ended, kind⟩ := commit_of_error (call.trans failed)
    have ended : saved = (.error failure, t) := ended
    left
    rw [ended]
    refine ⟨failure, rfl, untouched, fun short => ?_⟩
    rw [kinds short, why, Option.map_some, kind]
  · obtain ⟨outcome, left'⟩ := commit_of_published (call.trans done)
    right
    exact ⟨outcome, left', fun short => by rw [kinds short, why, Option.map_none]⟩

/-- A store in which nothing fails is one of a transaction at which nothing waits. -/
theorem commit_store (faults : Faults) (r : Record) (s : Store) :
    let saved := commit ((Transaction.repository {}).withFaults faults) r s.transaction
    commit (Store.repository.withFaults faults) r s = (saved.1, saved.2.store) := by
  intro saved
  cases standing : faults.save with
  | some fault =>
      simp only [saved, commit, save_of_fault standing]
      cases fault <;> rfl
  | none =>
      simp only [saved, commit, save_of_faultless standing]
      show commit Store.repository r s = _
      simp only [commit, Store.repository, Store.save, Store.act, Transaction.repository]
      rcases Transaction.save {} r s.transaction with ⟨outcome, t⟩
      cases outcome with
      | ok _ => rfl
      | error fault => cases fault <;> rfl

theorem commit_store_cases (faults : Faults) (r : Record) (s : Store) :
    (∃ failure t, commit (Store.repository.withFaults faults) r s = (.error failure, t) ∧
      (t = s ∨ t = s.reload)) ∨
    (commit (Store.repository.withFaults faults) r s =
        (.ok (), s.commit (s.index.records ++ [.ofRecord s.handle.registry r])) ∧
      (r.id.utf8ByteSize ≤ longestKeyword → s.keptUnder r.id = [])) := by
  rw [commit_store]
  rcases commit_cases faults {} r s with
    ⟨failure, failed, untouched, -⟩ | ⟨outcome, published, fine⟩
  · left
    exact ⟨failure, _, by rw [failed], untouched.same⟩
  · right
    refine ⟨?_, fun short => keptUnder_of_saveFault (fine short)⟩
    rw [published]
    cases ended : (commit ((Transaction.repository {}).withFaults faults) r s.transaction).1 with
    | error failure =>
        rw [ended] at outcome
        cases outcome
    | ok _ => rfl

/-- A request that fails before anything is published leaves what is kept. -/
theorem settles_of_failure {assembled : Record → Prop} {m : Mishaps} {late : Option FailureKind}
    {failure : Failure} {kind : FailureKind} {result : Except Failure Unit × Transaction}
    (failed : result.1 = .error failure) (same : failure.kind = kind)
    (untouched : Transaction.Untouched m s result.2) :
    Settles m s id assembled (some kind) late result where
  kind := by
    rw [failed, ← same]
    rfl
  refused _ := untouched.index_eq
  stored fine := by cases fine
  settled whole := by rw [untouched.settled whole, untouched.index_eq]

/-- A record that is published is found under its identity. -/
theorem settles_of_published {assembled : Record → Prop} {m : Mishaps} {r : Record}
    {result : Except Failure Unit × Transaction} (short : r.id.utf8ByteSize ≤ longestKeyword)
    (complete : r.Complete s.handle.registry) (proper : assembled r.floorDates)
    (free : s.keptUnder r.id = [])
    (outcome : result.1.mapError Failure.kind = (lookFault m).elim (.ok ()) .error)
    (published : result.2 = (Transaction.published m s.reload
      (s.index.records ++ [.ofRecord s.handle.registry r]) ()).2) :
    Settles m s r.id assembled none (lookFault m) result := by
  have index : result.2.store.index =
      (s.commit (s.index.records ++ [.ofRecord s.handle.registry r])).index := by
    rw [published, Transaction.index_published]
    rfl
  have owner : result.2.store.handle.registry = s.handle.registry := by
    rw [published, Transaction.registry_published]
    rfl
  have only : result.2.store.keptUnder r.id = [.ofRecord result.2.store.handle.registry r] := by
    have appended := Store.keptUnder_commit_append s s.handle.registry r r.id
    rw [free, if_pos rfl, List.nil_append] at appended
    rw [owner, ← appended, Store.keptUnder, index]
    rfl
  refine ⟨outcome, fun failed => absurd rfl failed, fun _ => ⟨r.floorDates, proper, ?_, ?_, ?_⟩, ?_⟩
  · rw [index]
    rfl
  · rw [index, Stored.ofRecord_floorDates]
    rfl
  · have found := Store.find_of_keptUnder short (owner ▸ complete) only
    exact congrArg Prod.fst found
  · intro _
    rw [index, published, Transaction.draft_published]
    rfl

theorem commit_settles {assembled : Record → Prop} {r : Record}
    (short : r.id.utf8ByteSize ≤ longestKeyword) (faults : Faults) (m : Troubles)
    (complete : r.Complete s.handle.registry) (proper : assembled r.floorDates) :
    Settles m.save s r.id assembled (saveFault faults m.save r.id s) (lookFault m.save)
      (commit ((Transaction.repository m).withFaults faults) r s.transaction) := by
  rcases commit_cases faults m r s with
    ⟨failure, failed, untouched, fault⟩ | ⟨outcome, published, fault⟩
  · rw [fault short]
    exact settles_of_failure failed rfl untouched
  · have fine := fault short
    rw [fine]
    exact settles_of_published short complete proper (keptUnder_of_saveFault fine) outcome published

/-- A request fails at its check, in the making of its record or when it saves it, in this order. -/
theorem run_settles {assembled : Record → Prop} {fault : Option FailureKind}
    {made : Except Failure Record} (short : id.utf8ByteSize ≤ longestKeyword) (faults : Faults)
    (m : Troubles) (makes : Makes s.handle.registry id assembled fault made) :
    Settles m.save s id assembled
      ((precheckFault faults m.holds id s).or (fault.or (saveFault faults m.save id s)))
      (lookFault m.save)
      (run ((Transaction.repository m).withFaults faults) id made s.transaction) := by
  obtain ⟨kind, same⟩ := precheck_cases short faults m s
  rcases asked : precheck ((Transaction.repository m).withFaults faults) id s.transaction
    with ⟨outcome, t⟩
  rw [asked] at kind same
  cases early : precheckFault faults m.holds id s with
  | some k =>
      rw [early] at kind
      cases outcome with
      | ok _ => cases kind
      | error failure =>
          simp only [run, asked, Option.some_or]
          exact settles_of_failure rfl (Except.error.inj kind) (.of_eq same)
  | none =>
  rw [early] at kind
  cases outcome with
  | error failure => cases kind
  | ok _ =>
  simp only [run, asked, Option.none_or]
  cases made with
  | error failure =>
      rw [makes.failed failure rfl, Option.some_or]
      exact settles_of_failure rfl rfl (.of_eq same)
  | ok r =>
      obtain ⟨none, rfl, complete, assembled⟩ := makes.done r rfl
      rw [none, Option.none_or]
      -- The check may have taken a new snapshot, of which the same is kept and found.
      rcases same with rfl | rfl
      · exact commit_settles short faults m complete assembled
      · have reloaded := commit_settles (s := s.reload) short faults m complete assembled
        exact ⟨reloaded.kind, reloaded.refused, reloaded.stored, reloaded.settled⟩

end Requests

/-- A request to index a document or an envelope fails as the first of its stages that fails, and
then the store keeps what it kept; else the store keeps its record besides, and finds it.  The only
other failure is that of a store which cannot look at what it saved. -/
theorem indexing_settles (faults : Faults) (m : Troubles) (s : Store) {id : String}
    (short : id.utf8ByteSize ≤ longestKeyword) :
    (∀ (w : World) (request : IndexRequest),
      Settles m.save s id
        (fun r => ∃ metadata contents, readMetadata w.load request.metadata = .ok metadata ∧
          Extracts w request contents ∧ r = documentRecord w id request metadata contents)
        (Stage.ofDocument.findSome? (documentFault faults m w id request s)) (lookFault m.save)
        (index s.handle.registry ((Transaction.repository m).withFaults faults) w id request
          s.transaction)) ∧
    ∀ (mediaType : String) (payload : Content),
      Settles m.save s id
        (fun r => ∃ contents, Carries payload contents ∧ r = envelopeRecord id mediaType contents)
        (Stage.ofEnvelope.findSome? (envelopeFault faults m id mediaType payload s))
        (lookFault m.save)
        (indexEnvelope s.handle.registry ((Transaction.repository m).withFaults faults) id
          mediaType payload s.transaction) := by
  constructor
  · intro w request
    have settles := run_settles short faults m (recordOf_makes faults m w id request s)
    have order : Stage.ofDocument.findSome? (documentFault faults m w id request s) =
        (precheckFault faults m.holds id s).or
          (([Stage.metadata, .source, .extraction, .attributes].findSome?
            (documentFault faults m w id request s)).or (saveFault faults m.save id s)) := by
      rw [show Stage.ofDocument = [Stage.precheck] ++
        ([.metadata, .source, .extraction, .attributes] ++ [.save]) from rfl,
        List.findSome?_append, List.findSome?_append, List.findSome?_singleton,
        List.findSome?_singleton]
      rfl
    rw [order]
    exact settles
  · intro mediaType payload
    have settles := run_settles short faults m
      (recordOfEnvelope_makes faults m id mediaType payload s)
    have order : Stage.ofEnvelope.findSome? (envelopeFault faults m id mediaType payload s) =
        (envelopeFault faults m id mediaType payload s .mediaType).or
          ((precheckFault faults m.holds id s).or
            (([Stage.payload, .contents, .attributes].findSome?
              (envelopeFault faults m id mediaType payload s)).or
                (saveFault faults m.save id s))) := by
      rw [show Stage.ofEnvelope = [Stage.mediaType] ++ ([Stage.precheck] ++
        ([.payload, .contents, .attributes] ++ [.save])) from rfl,
        List.findSome?_append, List.findSome?_append, List.findSome?_append,
        List.findSome?_singleton, List.findSome?_singleton, List.findSome?_singleton]
      rfl
    rw [order, envelopeFault]
    by_cases json : MediaType.essence mediaType = envelopeType
    · simp only [indexEnvelope, json, if_true, Option.none_or]
      exact settles
    · simp only [indexEnvelope, json, if_false, Option.some_or]
      exact settles_of_failure rfl rfl (.of_eq (.inl rfl))

/-- A document whose metadata are blank is recorded without a title, beside another record. -/
theorem indexing_settles_untitled :
    let url : Url := { scheme := "file".toList, path := "/x.txt".toList }
    let w : World := ⟨fun _ => .ok (.ok [0x20]), fun _ => none, {}, ⟨5, 7, by decide⟩⟩
    let s := Store.keeping Registry.standard [{ id := "a" }]
    let result := index Registry.standard ((Transaction.repository {}).withFaults {}) w "b"
      ⟨url, url, some "text/plain"⟩ s.transaction
    "b".utf8ByteSize ≤ longestKeyword ∧ result.1 = .ok () ∧
      result.2.store.index.records.length = 2 ∧
      (Store.find "b" result.2.store).1 = .ok (some
        { id := "b", contents := some " ", sourceLocation := some url.text,
          metadataLocation := some url.text, mediaType := some "text/plain",
          createdAt := some ⟨5, 0, by decide⟩, modifiedAt := some ⟨5, 0, by decide⟩ }) := by
  intro url w s result
  have short : "b".utf8ByteSize ≤ longestKeyword := by decide
  have settles := (indexing_settles {} {} s short).1 w ⟨url, url, some "text/plain"⟩
  have faultless : Stage.ofDocument.findSome?
      (documentFault {} {} w "b" ⟨url, url, some "text/plain"⟩ s) = none := by
    subst s w url
    decide +kernel
  have ended : result.1.mapError Failure.kind = .ok () := by
    refine settles.kind.trans ?_
    rw [faultless]
    rfl
  have done : result.1 = .ok () := by
    cases outcome : result.1 with
    | ok _ => rfl
    | error failure =>
        rw [outcome] at ended
        cases ended
  obtain ⟨r, ⟨metadata, contents, read, ⟨content, loaded, extracted⟩, rfl⟩, -, records, found⟩ :=
    settles.stored faultless
  obtain rfl : " " = metadata := Except.ok.inj read
  obtain rfl : .ok [0x20] = content := Except.ok.inj loaded
  obtain rfl : " " = contents := Except.ok.inj extracted
  refine ⟨short, done, ?_, found⟩
  exact (congrArg List.length records).trans (by rfl)

/-- A store that cannot look at what it published reports a failure and keeps the record. -/
theorem indexing_settles_unseen :
    let m : Troubles := { save := { refresh := some "Too many open files (os error 24)" } }
    let s := Store.inMemory Registry.standard
    let result := indexEnvelope Registry.standard ((Transaction.repository m).withFaults {}) "b"
      "application/json" (.ok (Text.Utf8.encode "\x7b\"ext.extracted.text\":\"a\"\x7d".toList))
      s.transaction
    result.1 = .error (.storeUnavailable "Unable to save index"
        (.engine "Too many open files (os error 24)")) ∧
      s.index.records = [] ∧ result.2.store.index.records.length = 1 ∧
      (Store.find "b" result.2.store).1 = .ok (some
        { id := "b", contents := some "a", mediaType := some "application/json" }) := by
  refine ⟨?_, rfl, ?_, ?_⟩ <;> decide +kernel

end Indexing

end RecordSearch
