import RecordSearch.Proofs.Http.Writes

/-!
# The limit on the bodies of requests

A body is refused for its length exactly if the request says that it is longer than the limit or
it is, and every other body is handed on as it is, or reported if it breaks off.  The refusal reports
the length that was said, if one was, and otherwise the least length that is too long.  So the
reported length is above the limit unless the request understates the length of a body that is too
long.
-/

namespace RecordSearch

open RecordSearch.Http

namespace Http.Request

variable {limit : Nat} {r : Request}

/-- A request whose body is too long, by what it says or by what it is. -/
def TooLong (limit : Nat) (r : Request) : Prop :=
  (∃ n, r.declaredLength? = some n ∧ limit < n) ∨ limit < r.body.length

/-- A request that says of a body that is too long that it is not. -/
def Understates (limit : Nat) (r : Request) : Prop :=
  (∃ n, r.declaredLength? = some n ∧ n ≤ limit) ∧ limit < r.body.length

def reportedLength (limit : Nat) (r : Request) : Nat := r.declaredLength?.getD (limit + 1)

/-- The length of a body is a word, so a limit that it exceeds is not the greatest one. -/
theorem boundedBody_of_tooLong (memory : r.body.length ≤ greatestWord) (long : r.TooLong limit) :
    r.boundedBody limit = .error (.payloadTooLarge (r.reportedLength limit) limit) := by
  unfold boundedBody reportedLength
  cases declared : r.declaredLength? with
  | none =>
      have longer : limit < r.body.length := by simpa [TooLong, declared] using long
      have least : min (limit + 1) greatestWord = limit + 1 := by omega
      simp [Nat.not_le_of_lt longer, least]
  | some n =>
      by_cases above : limit < n
      · simp [Option.filter_some, above]
      · have longer : limit < r.body.length := by simpa [TooLong, declared, above] using long
        simp [Option.filter_some, above, Nat.not_le_of_lt longer]

theorem boundedBody_of_not_tooLong (fits : ¬ r.TooLong limit) :
    r.boundedBody limit = r.broken.elim (.ok r.body) fun reason =>
      .error (.invalidRequest ("Failed to read request body: " ++ reason)) := by
  obtain ⟨said, short⟩ := not_or.mp fits
  have within : r.declaredLength?.filter (limit < ·) = none := by
    rw [Option.filter_eq_none_iff]
    intro n declared above
    exact said ⟨n, declared, of_decide_eq_true above⟩
  simp only [boundedBody, within, Nat.le_of_not_lt short, if_true]
  cases r.broken <;> rfl

theorem lt_reportedLength_iff (long : r.TooLong limit) :
    limit < r.reportedLength limit ↔ ¬ r.Understates limit := by
  unfold reportedLength
  cases declared : r.declaredLength? with
  | none => simp [Understates, declared]
  | some n =>
      by_cases above : limit < n
      · simp [Understates, declared, above]
      · have longer : limit < r.body.length := by simpa [TooLong, declared, above] using long
        simp [Understates, declared, above, longer, Nat.le_of_not_lt above]

end Http.Request

/-! ### No other step refuses a body for its length -/

def Failure.NotOfLength {α : Type} (result : Except Failure α) : Prop :=
  ∀ size limit, result ≠ .error (.payloadTooLarge size limit)

theorem Failure.NotOfLength.passed {α β : Type} {result : Except Failure α} {failure : Failure}
    (sound : NotOfLength result) (failed : result = .error failure) :
    NotOfLength (.error failure : Except Failure β) := by
  intro size limit same
  cases same
  exact sound size limit failed

namespace Indexing

open Failure

variable {registry : Registry} {σ : Type} {store : Repository σ} {made : Except Failure Record}

theorem notOfLength_complete (r : Record) : NotOfLength (complete registry r) := by
  unfold complete
  split <;> simp [NotOfLength]

theorem notOfLength_readSource (w : World) (location : Url) (mediaType : Option String) :
    NotOfLength (readSource w location mediaType) := by
  unfold readSource
  split
  · simp [NotOfLength]
  · split <;> simp [NotOfLength]

theorem notOfLength_recordOf (w : World) (id : String) (request : IndexRequest) :
    NotOfLength (recordOf registry w id request) := by
  unfold recordOf
  split
  · simp [NotOfLength]
  · dsimp only
    have read := notOfLength_readSource w request.source
      (request.mediaType.or (w.guess request.source.path))
    split
    · next failed => exact read.passed failed
    · exact notOfLength_complete _

theorem notOfLength_envelopeDocument (payload : Content) :
    NotOfLength (envelopeDocument payload) := by
  unfold envelopeDocument
  split
  · simp [NotOfLength]
  · split <;> simp [NotOfLength]

theorem notOfLength_envelopeText (payload : Content) : NotOfLength (envelopeText payload) := by
  have read := notOfLength_envelopeDocument payload
  unfold envelopeText
  split
  · next failed => exact read.passed failed
  · split <;> simp [NotOfLength]

theorem notOfLength_recordOfEnvelope (id mediaType : String) (payload : Content) :
    NotOfLength (recordOfEnvelope registry id mediaType payload) := by
  have read := notOfLength_envelopeText payload
  unfold recordOfEnvelope
  split
  · next failed => exact read.passed failed
  · exact notOfLength_complete _

theorem notOfLength_precheck (id : String) (s : σ) : NotOfLength (precheck store id s).1 := by
  unfold precheck
  split <;> simp [NotOfLength]

theorem notOfLength_commit (r : Record) (s : σ) : NotOfLength (commit store r s).1 := by
  unfold commit
  split <;> simp [NotOfLength]

theorem notOfLength_run (sound : NotOfLength made) (id : String) (s : σ) :
    NotOfLength (run store id made s).1 := by
  have checked : NotOfLength (precheck store id s).1 := notOfLength_precheck id s
  unfold run
  split
  · next failed =>
      rw [failed] at checked
      exact checked
  · cases made with
    | error failure => exact sound.passed rfl
    | ok r => exact notOfLength_commit r _

theorem notOfLength_index (w : World) (id : String) (request : IndexRequest) (s : σ) :
    NotOfLength (index registry store w id request s).1 :=
  notOfLength_run (notOfLength_recordOf w id request) id s

theorem notOfLength_indexEnvelope (id mediaType : String) (payload : Content) (s : σ) :
    NotOfLength (indexEnvelope registry store id mediaType payload s).1 := by
  unfold indexEnvelope
  split
  · exact notOfLength_run (notOfLength_recordOfEnvelope id mediaType payload) id s
  · simp [NotOfLength]

end Indexing

namespace Services

variable {s : Services} {r : Request} {id : String}

theorem notOfLength_envelope {limit size : Nat} (fits : size ≤ limit) (mediaType : Option String) :
    Failure.NotOfLength (Admission.envelope limit mediaType size) := by
  unfold Admission.envelope
  dsimp only
  rw [if_neg (Nat.not_lt_of_le fits)]
  split <;> simp [Failure.NotOfLength]

theorem notOfLength_location (text : String) : Failure.NotOfLength (IndexBody.location text) := by
  unfold IndexBody.location
  split <;> simp [Failure.NotOfLength]

theorem notOfLength_request (b : IndexBody) : Failure.NotOfLength b.request := by
  have source := notOfLength_location b.sourceLocation
  have metadata := notOfLength_location b.metadataLocation
  unfold IndexBody.request
  cases read : IndexBody.location b.sourceLocation with
  | error failure => exact source.passed read
  | ok u =>
      cases read : IndexBody.location b.metadataLocation with
      | error failure => exact metadata.passed read
      | ok u => simp [Failure.NotOfLength, bind, Except.bind, pure, Except.pure]

theorem notOfLength_requestOf (body : List UInt8) :
    Failure.NotOfLength (IndexBody.requestOf body) := by
  unfold IndexBody.requestOf
  split
  · exact notOfLength_request _
  · simp [Failure.NotOfLength]

theorem fst_act {α : Type} (action : Store → α × Store) : (s.act action).1 = (action s.store).1 :=
  rfl

theorem notOfLength_write (fits : r.body.length ≤ s.config.limits.payloadBytes)
    (w : Surroundings) (id : String) : Failure.NotOfLength (s.write w id r r.body).1 := by
  unfold write
  split
  · have read := notOfLength_requestOf r.body
    split
    · next failed => exact read.passed failed
    · rw [index, fst_act]
      exact Indexing.notOfLength_index _ id _ s.store
  · have checked := notOfLength_envelope fits (r.header? "content-type")
    split
    · next failed => exact checked.passed failed
    · rw [indexEnvelope, fst_act]
      exact Indexing.notOfLength_indexEnvelope id _ _ s.store

theorem status_answer_eq_iff (result : Except Failure Unit) :
    (answer (fun _ => .done) result).status = 413 ↔ ¬ Failure.NotOfLength result := by
  cases result with
  | ok _ => simp [answer, Answer.done, Failure.NotOfLength]
  | error failure =>
      cases failure <;>
        simp [answer, Answer.ofFailure, Failure.kind, FailureKind.status, Failure.NotOfLength]

/-- The body of a request whose identity and version are accepted is bounded and nothing else. -/
theorem admitted_eq_boundedBody {c : Config} (identity : Admission.identity id = .ok ())
    (version : Admission.version c.version (r.header? "accept-version") = .ok ()) :
    admitted c id r = r.boundedBody c.limits.payloadBytes := by
  simp only [admitted, identity, version]
  rfl

theorem respond_of_puts (puts : r.Puts id) (w : Surroundings) : s.respond w r = s.put w id r := by
  simp only [respond, Route.ofRequest?_eq_index_iff.mpr puts]

/-- Of the requests to put a record whose identity and version are accepted, exactly those with a
body that is too long are answered with 413 and change nothing; of every other one all of the body
is indexed, unless it cannot be read to its end.  The answer reports a length above the limit unless
the request says of its long body that it keeps to the limit. -/
theorem respond_of_long_body (puts : r.Puts id) (identity : Admission.identity id = .ok ())
    (version : Admission.version s.config.version (r.header? "accept-version") = .ok ())
    (memory : r.body.length ≤ greatestWord) (w : Surroundings) :
    ((s.respond w r).1.status = 413 ↔ r.TooLong s.config.limits.payloadBytes) ∧
    (r.TooLong s.config.limits.payloadBytes →
      s.respond w r = (.ofFailure (.payloadTooLarge
        (r.reportedLength s.config.limits.payloadBytes) s.config.limits.payloadBytes), s) ∧
      (s.config.limits.payloadBytes < r.reportedLength s.config.limits.payloadBytes ↔
        ¬ r.Understates s.config.limits.payloadBytes)) ∧
    (¬ r.TooLong s.config.limits.payloadBytes →
      (r.broken = none →
        admitted s.config id r = .ok r.body ∧ s.respond w r = reply (s.write w id r r.body)) ∧
      ∀ reason, r.broken = some reason → s.respond w r =
        (.ofFailure (.invalidRequest ("Failed to read request body: " ++ reason)), s)) := by
  have bounded := admitted_eq_boundedBody identity version
  rw [respond_of_puts puts, put]
  by_cases long : r.TooLong s.config.limits.payloadBytes
  · rw [Request.boundedBody_of_tooLong memory long] at bounded
    simp only [bounded, long, not_true_eq_false, false_imp_iff, and_true, true_imp_iff, true_and]
    exact ⟨iff_of_true rfl trivial, Request.lt_reportedLength_iff long⟩
  · rw [Request.boundedBody_of_not_tooLong long] at bounded
    have fits : r.body.length ≤ s.config.limits.payloadBytes :=
      Nat.le_of_not_lt (not_or.mp long).2
    have sound := notOfLength_write fits w id
    cases broken : r.broken with
    | none =>
        rw [broken, Option.elim_none] at bounded
        simp only [bounded, long, not_false_eq_true, true_imp_iff, false_imp_iff, true_and,
          iff_false, reduceCtorEq, implies_true, and_true]
        exact ⟨fun status => (status_answer_eq_iff _).mp status sound, rfl⟩
    | some reason =>
        rw [broken, Option.elim_some] at bounded
        simp only [bounded, long, not_false_eq_true, true_imp_iff, false_imp_iff, true_and,
          iff_false, reduceCtorEq]
        constructor
        · simp [Answer.ofFailure, Failure.kind, FailureKind.status]
        · rintro _ ⟨⟩
          rfl

/-- Three bytes are too long for a limit of two, and a request that does not say so is told. -/
theorem respond_of_long_body_unsaid :
    let s : Services :=
      ⟨{ limits := { payloadBytes := 2 } }, .standard, .inMemory .standard, none⟩
    let w : Surroundings := ⟨fun _ => .error ⟨"no such host", []⟩, fun _ => none, .ofSeconds 0, "0"⟩
    let put : Request :=
      { method := "PUT", target := "/api/v1/index/0123456789abcdefghijABCDEFGHIJ00",
        headers := [("Accept-Version", "0.1.0")], body := [97, 98, 99] }
    s.respond w put = (.ofFailure (.payloadTooLarge 3 2), s) := by
  intro s w put
  have puts : put.Puts "0123456789abcdefghijABCDEFGHIJ00" :=
    Route.ofRequest?_eq_index_iff.mp (by decide +kernel)
  have long : put.TooLong s.config.limits.payloadBytes := .inr (by decide)
  exact ((respond_of_long_body puts rfl rfl (by decide) w).2.1 long).1

/-- A request that says of three bytes that they are one is told that one byte is above a limit of
two. -/
theorem respond_of_long_body_understated :
    let s : Services :=
      ⟨{ limits := { payloadBytes := 2 } }, .standard, .inMemory .standard, none⟩
    let w : Surroundings := ⟨fun _ => .error ⟨"no such host", []⟩, fun _ => none, .ofSeconds 0, "0"⟩
    let put : Request :=
      { method := "PUT", target := "/api/v1/index/0123456789abcdefghijABCDEFGHIJ00",
        headers := [("Accept-Version", "0.1.0"), ("Content-Length", "1")], body := [97, 98, 99] }
    s.respond w put = (.ofFailure (.payloadTooLarge 1 2), s) ∧ ¬ 2 < 1 := by
  intro s w put
  have puts : put.Puts "0123456789abcdefghijABCDEFGHIJ00" :=
    Route.ofRequest?_eq_index_iff.mp (by decide +kernel)
  have bounded : admitted s.config "0123456789abcdefghijABCDEFGHIJ00" put =
      .error (.payloadTooLarge 1 2) := by decide +kernel
  refine ⟨?_, by decide⟩
  rw [respond_of_puts puts, Services.put, bounded]

end Services

end RecordSearch
