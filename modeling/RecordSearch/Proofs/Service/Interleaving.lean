import Mathlib.Logic.Function.Basic
import RecordSearch.Proofs.Service.Stages

/-!
# Requests that overtake one another

A job is a request to index something.  It takes two steps: it asks the store for its identity, and
later it saves its record.  Between the two, other jobs may take their steps and records may be
removed, so what a job learned from the store may no longer be true when it saves.  Whatever the
order of the steps, the store gives an identity to one job at a time.
-/

namespace RecordSearch

namespace Indexing

inductive Job where
  | document (w : World) (id : String) (request : IndexRequest)
  | envelope (id mediaType : String) (payload : Content)

namespace Job

def id : Job → String
  | document _ id _ => id
  | envelope id _ _ => id

/-- The failure of a job that does not come to the store at all. -/
def refusal? : Job → Option Failure
  | document _ _ _ => none
  | envelope _ mediaType _ =>
      if MediaType.essence mediaType = envelopeType then none
      else some (.unsupportedMediaType envelopeType mediaType)

def record (registry : Registry) : Job → Except Failure Record
  | document w id request => recordOf registry w id request
  | envelope id mediaType payload => recordOfEnvelope registry id mediaType payload

/-- The first step of a job: it asks for its identity, if it is not refused before. -/
def check (job : Job) (faults : Faults) (s : Store) : Except Failure Unit × Store :=
  match job.refusal? with
  | some failure => (.error failure, s)
  | none => precheck (Store.repository.withFaults faults) job.id s

/-- The second step of a job: it makes its record and saves it. -/
def finish (job : Job) (faults : Faults) (s : Store) : Except Failure Unit × Store :=
  match job.record s.handle.registry with
  | .error failure => (.error failure, s)
  | .ok r => commit (Store.repository.withFaults faults) r s

/-- A job that nothing comes between. -/
def run (job : Job) (faults : Faults) (s : Store) : Except Failure Unit × Store :=
  match job with
  | document w id request =>
      index s.handle.registry (Store.repository.withFaults faults) w id request s
  | envelope id mediaType payload =>
      indexEnvelope s.handle.registry (Store.repository.withFaults faults) id mediaType payload s

variable {job : Job} {s : Store} {registry : Registry}

theorem id_and_complete_of_record {r : Record} (made : job.record registry = .ok r) :
    r.id = job.id ∧ r.Complete registry := by
  cases job with
  | document w id request =>
      have makes := recordOf_makes {} {} w id request (.inMemory registry)
      exact ⟨(makes.done r made).2.1, (makes.done r made).2.2.1⟩
  | envelope id mediaType payload =>
      have makes := recordOfEnvelope_makes {} {} id mediaType payload (.inMemory registry)
      exact ⟨(makes.done r made).2.1, (makes.done r made).2.2.1⟩

/-- Asking for an identity changes nothing but the snapshot. -/
theorem check_store (job : Job) (faults : Faults) (s : Store) :
    (job.check faults s).2 = s ∨ (job.check faults s).2 = s.reload := by
  unfold check
  cases job.refusal? with
  | some failure => exact .inl rfl
  | none =>
      rw [precheck_state]
      simp only [Repository.withFaults]
      rcases faults.holds with _ | fault | _
      · exact .inr rfl
      · exact .inl rfl
      · exact .inl rfl

theorem run_of_refusal {failure : Failure} (refused : job.refusal? = some failure)
    (faults : Faults) (s : Store) : job.run faults s = (.error failure, s) := by
  cases job with
  | document w id request => cases refused
  | envelope id mediaType payload =>
      by_cases json : MediaType.essence mediaType = envelopeType
      · simp only [refusal?, json, if_true, reduceCtorEq] at refused
      · simp only [refusal?, json, if_false, Option.some.injEq] at refused
        simp only [run, indexEnvelope, json, if_false, refused]

theorem run_of_admitted (admitted : job.refusal? = none) (faults : Faults) (s : Store) :
    job.run faults s =
      Indexing.run (Store.repository.withFaults faults) job.id
        (job.record s.handle.registry) s := by
  cases job with
  | document w id request => rfl
  | envelope id mediaType payload =>
      by_cases json : MediaType.essence mediaType = envelopeType
      · simp only [run, indexEnvelope, json, if_true]
        rfl
      · simp only [refusal?, json, if_false, reduceCtorEq] at admitted

/-- The two steps of a job, one right after the other, are the whole job. -/
theorem run_eq (job : Job) (faults : Faults) (s : Store) :
    job.run faults s =
      match job.check faults s with
      | (.error failure, s') => (.error failure, s')
      | (.ok (), s') => job.finish faults s' := by
  cases refusal : job.refusal? with
  | some failure => simp only [run_of_refusal refusal, check, refusal]
  | none =>
      have same : (job.check faults s).2.handle.registry = s.handle.registry := by
        rcases job.check_store faults s with same | same <;> rw [same]
        rfl
      rw [run_of_admitted refusal, Indexing.run]
      simp only [check, refusal] at same ⊢
      rcases asked : precheck (Store.repository.withFaults faults) job.id s with ⟨outcome, s'⟩
      rw [asked] at same
      cases outcome with
      | error failure => rfl
      | ok _ =>
          have same : s'.handle.registry = s.handle.registry := same
          cases made : job.record s.handle.registry <;> simp only [finish, same, made]

theorem check_of_kept (short : job.id.utf8ByteSize ≤ longestKeyword)
    (kept : s.keptUnder job.id ≠ []) (accepted : job.refusal? = none) {faults : Faults}
    (asked : faults.holds = none) :
    job.check faults s = (.error (.duplicateIdentity job.id), s.reload) := by
  simp only [check, accepted, precheck, Repository.withFaults, asked, Store.repository,
    Store.holds_of_short short]
  cases kept' : s.keptUnder job.id with
  | nil => exact absurd kept' kept
  | cons d others => rfl

theorem finish_of_kept (short : job.id.utf8ByteSize ≤ longestKeyword)
    (kept : s.keptUnder job.id ≠ []) (writable : s.handle.writable = true) {r : Record}
    (made : job.record s.handle.registry = .ok r) {faults : Faults} (saved : faults.save = none) :
    job.finish faults s = (.error (.duplicateIdentity job.id), s.reload) := by
  have identity := (id_and_complete_of_record made).1
  rw [← identity] at short kept ⊢
  have taken : (s.keptUnder r.id).isEmpty = false := by
    rwa [Bool.eq_false_iff, ne_eq, List.isEmpty_iff]
  have refused : Store.repository.save r s = (.error (.duplicateKey r.id), s.reload) := by
    show Store.save r s = _
    rw [Store.save_of_short short writable, if_neg (Bool.eq_false_iff.mp taken)]
  simp only [finish, made, commit, save_of_faultless saved, refused]

/-- A job that saves either adds its record, under an identity that was free, or fails. -/
theorem finish_cases (job : Job) (faults : Faults) (s : Store) :
    (∃ r, job.record s.handle.registry = .ok r ∧
      (job.id.utf8ByteSize ≤ longestKeyword → s.keptUnder job.id = []) ∧
      job.finish faults s =
        (.ok (), s.commit (s.index.records ++ [.ofRecord s.handle.registry r]))) ∨
    (∃ failure, (job.finish faults s).1 = .error failure) ∧
      ((job.finish faults s).2 = s ∨ (job.finish faults s).2 = s.reload) := by
  cases made : job.record s.handle.registry with
  | error failure =>
      right
      have ended : job.finish faults s = (.error failure, s) := by
        simp only [finish, made]
      rw [ended]
      exact ⟨⟨failure, rfl⟩, .inl rfl⟩
  | ok r =>
  have identity := (id_and_complete_of_record made).1
  simp only [finish, made]
  rcases commit_store_cases faults r s with ⟨failure, t, failed, same⟩ | ⟨saved, free⟩
  · right
    rw [failed]
    exact ⟨⟨failure, rfl⟩, same⟩
  · left
    rw [identity] at free
    exact ⟨r, rfl, free, saved⟩

end Job

inductive Progress where
  | waiting
  | admitted
  | ended (outcome : Except Failure Unit)
  deriving DecidableEq

structure Traffic (ι : Type) where
  store : Store
  progress : ι → Progress

inductive Move (ι : Type) where
  | check (i : ι) (faults : Faults)
  | finish (i : ι) (faults : Faults)
  | delete (id : String) (faults : Faults)
  | purge (faults : Faults)

inductive Event (ι : Type) where
  | passed (i : ι)
  | ended (i : ι) (outcome : Except Failure Unit)
  | deleted (id : String) (answer : Except StoreFault Bool)
  | purged (answer : Except StoreFault Unit)
  | idle
  deriving DecidableEq

inductive Holder (ι : Type) where
  | original
  | nobody
  | job (i : ι)
  deriving DecidableEq

namespace Event

variable {ι : Type}

/-- A job under an identity succeeds. -/
def Stores (jobs : ι → Job) (id : String) : Event ι → Prop
  | ended i (.ok ()) => (jobs i).id = id
  | _ => False

/-- The record under an identity is removed, or all records are. -/
def Frees (id : String) : Event ι → Prop
  | deleted other (.ok true) => other = id
  | purged (.ok ()) => True
  | _ => False

/-- An event that neither adds a record nor removes one. -/
def Quiet : Event ι → Prop
  | ended _ (.ok ()) => False
  | deleted _ (.ok true) => False
  | purged (.ok ()) => False
  | _ => True

/-- The holder of an identity after an event. -/
def holder (jobs : ι → Job) (id : String) (held : Holder ι) : Event ι → Holder ι
  | ended i (.ok ()) => if (jobs i).id = id then .job i else held
  | deleted other (.ok true) => if other = id then .nobody else held
  | purged (.ok ()) => .nobody
  | _ => held

end Event

section Effects

variable {ι : Type} {jobs : ι → Job} {s s' : Store} {event : Event ι} {id : String}
  {held : Holder ι} {before : List Stored}

inductive Effect (jobs : ι → Job) (s : Store) : Event ι → Store → Prop
  | stored (i : ι) (r : Record) (made : (jobs i).record s.handle.registry = .ok r)
      (free : (jobs i).id.utf8ByteSize ≤ longestKeyword → s.keptUnder (jobs i).id = []) :
      Effect jobs s (.ended i (.ok ()))
        (s.commit (s.index.records ++ [.ofRecord s.handle.registry r]))
  | deleted (id : String) :
      Effect jobs s (.deleted id (.ok true))
        (s.commit (s.index.records.filter fun d => !s.handle.sees (.term .id id) d))
  | purged : Effect jobs s (.purged (.ok ())) (s.commit [])
  | quiet (event : Event ι) (s' : Store) (still : event.Quiet) (same : s' = s ∨ s' = s.reload) :
      Effect jobs s event s'

theorem Effect.of_delete (s : Store) (id : String) (faults : Faults) :
    Effect jobs s (.deleted id ((Store.repository.withFaults faults).delete id s).1)
      ((Store.repository.withFaults faults).delete id s).2 := by
  simp only [Repository.withFaults]
  cases faults.delete with
  | some fault => exact .quiet _ _ trivial (.inl rfl)
  | none =>
  show Effect jobs s (.deleted id (Store.delete id s).1) (Store.delete id s).2
  cases writable : s.handle.writable with
  | false =>
      have refused : Store.delete id s = (.error .readOnly, s) := by
        simp only [Store.delete_eq, writable, Bool.false_eq_true, if_false]
      rw [refused]
      exact .quiet _ _ trivial (.inl rfl)
  | true =>
      rcases Store.delete_cases writable id with removed | absent
      · rw [removed]
        exact .deleted id
      · rw [absent]
        exact .quiet _ _ trivial (.inr rfl)

theorem Effect.of_purge (s : Store) (faults : Faults) :
    Effect jobs s (.purged ((Store.repository.withFaults faults).purge s).1)
      ((Store.repository.withFaults faults).purge s).2 := by
  simp only [Repository.withFaults]
  cases faults.delete with
  | some fault => exact .quiet _ _ trivial (.inl rfl)
  | none =>
  show Effect jobs s (.purged (Store.purge s).1) (Store.purge s).2
  cases writable : s.handle.writable with
  | false =>
      have refused : Store.purge s = (.error .readOnly, s) := by
        simp only [Store.purge_eq, writable, Bool.false_eq_true, if_false]
      rw [refused]
      exact .quiet _ _ trivial (.inl rfl)
  | true =>
      rw [Store.purge_of_writable writable]
      exact .purged

theorem Effect.registry (effect : Effect jobs s event s') :
    s'.handle.registry = s.handle.registry := by
  cases effect with
  | quiet _ _ still same => rcases same with rfl | rfl <;> rfl
  | _ => rfl

theorem Effect.writable (effect : Effect jobs s event s') :
    s'.handle.writable = s.handle.writable := by
  cases effect with
  | quiet _ _ still same => rcases same with rfl | rfl <;> rfl
  | _ => rfl

theorem Effect.index_of_quiet (effect : Effect jobs s event s') (still : event.Quiet) :
    s'.index = s.index := by
  cases effect with
  | quiet _ _ _ same => rcases same with rfl | rfl <;> rfl
  | _ => cases still

theorem Effect.kept_of_not_frees (short : id.utf8ByteSize ≤ longestKeyword)
    (effect : Effect jobs s event s') (kept : s.keptUnder id ≠ []) (held : ¬ event.Frees id) :
    s'.keptUnder id ≠ [] := by
  cases effect with
  | stored i r made free =>
      rw [Store.keptUnder_commit_append]
      intro gone
      exact kept (List.append_eq_nil_iff.mp gone).1
  | deleted other =>
      have apart : ¬ other = id := held
      rwa [Store.keptUnder_commit_filter short, if_neg apart]
  | purged => exact absurd trivial held
  | quiet _ _ still same => rcases same with rfl | rfl <;> exact kept

theorem Effect.of_stores (short : id.utf8ByteSize ≤ longestKeyword)
    (effect : Effect jobs s event s') (stores : event.Stores jobs id) :
    s.keptUnder id = [] ∧ s'.keptUnder id ≠ [] := by
  cases effect with
  | stored i r made free =>
      obtain rfl : (jobs i).id = id := stores
      refine ⟨free short, ?_⟩
      rw [Store.keptUnder_commit_append, if_pos (Job.id_and_complete_of_record made).1]
      exact List.append_ne_nil_of_right_ne_nil _ (List.cons_ne_nil _ _)
  | deleted other => cases stores
  | purged => cases stores
  | quiet event _ still same =>
      exfalso
      match event, still, stores with
      | .ended i (.ok ()), still, _ => exact still

/-- What an identity has, if its holder is known. -/
def Holds (jobs : ι → Job) (registry : Registry) (before : List Stored) (s : Store) (id : String) :
    Holder ι → Prop
  | .original => s.keptUnder id = before
  | .nobody => s.keptUnder id = []
  | .job i => (jobs i).id = id ∧ ∃ r, (jobs i).record registry = .ok r ∧
      s.keptUnder id = [.ofRecord registry r]

theorem Holds.of_same {registry : Registry} (holds : Holds jobs registry before s id held)
    (same : s'.keptUnder id = s.keptUnder id) : Holds jobs registry before s' id held := by
  cases held with
  | original => exact same.trans holds
  | nobody => exact same.trans holds
  | job i =>
      obtain ⟨identity, r, made, only⟩ := holds
      exact ⟨identity, r, made, same.trans only⟩

theorem holder_of_quiet (still : event.Quiet) : event.holder jobs id held = held := by
  match event, still with
  | .passed _, _ => rfl
  | .ended _ (.error _), _ => rfl
  | .deleted _ (.error _), _ => rfl
  | .deleted _ (.ok false), _ => rfl
  | .purged (.error _), _ => rfl
  | .idle, _ => rfl

/-- The holder that an event makes of the one before has the identity after the step. -/
theorem Effect.holds (short : id.utf8ByteSize ≤ longestKeyword)
    (effect : Effect jobs s event s') (holds : Holds jobs s.handle.registry before s id held) :
    Holds jobs s'.handle.registry before s' id (event.holder jobs id held) := by
  rw [effect.registry]
  cases effect with
  | stored i r made free =>
      have identity := (Job.id_and_complete_of_record made).1
      have appended := Store.keptUnder_commit_append s s.handle.registry r id
      by_cases mine : (jobs i).id = id
      · simp only [Event.holder, if_pos mine]
        subst mine
        rw [free short, if_pos identity, List.nil_append] at appended
        exact ⟨rfl, r, made, appended⟩
      · simp only [Event.holder, if_neg mine]
        rw [identity, if_neg mine, List.append_nil] at appended
        exact holds.of_same appended
  | deleted other =>
      have filtered := Store.keptUnder_commit_filter short s other
      by_cases mine : other = id
      · simp only [Event.holder, if_pos mine]
        rwa [if_pos mine] at filtered
      · simp only [Event.holder, if_neg mine]
        rw [if_neg mine] at filtered
        exact holds.of_same filtered
  | purged => rfl
  | quiet _ _ still same =>
      rw [holder_of_quiet still]
      rcases same with rfl | rfl
      · exact holds
      · exact holds.of_same rfl

end Effects

namespace Traffic

variable {ι : Type} [DecidableEq ι] (jobs : ι → Job)

def start (s : Store) : Traffic ι := ⟨s, fun _ => .waiting⟩

/-- A job ends and takes no further step. -/
def close (traffic : Traffic ι) (i : ι) (result : Except Failure Unit × Store) :
    Event ι × Traffic ι :=
  (.ended i result.1, ⟨result.2, Function.update traffic.progress i (.ended result.1)⟩)

/-- A job asks once and, if it may, saves once; records may be removed at any time. -/
def step (traffic : Traffic ι) : Move ι → Event ι × Traffic ι
  | .check i faults =>
      match traffic.progress i with
      | .waiting =>
          match (jobs i).check faults traffic.store with
          | (.ok (), s) => (.passed i, ⟨s, Function.update traffic.progress i .admitted⟩)
          | (.error failure, s) => traffic.close i (.error failure, s)
      | _ => (.idle, traffic)
  | .finish i faults =>
      match traffic.progress i with
      | .admitted => traffic.close i ((jobs i).finish faults traffic.store)
      | _ => (.idle, traffic)
  | .delete id faults =>
      let removed := (Store.repository.withFaults faults).delete id traffic.store
      (.deleted id removed.1, { traffic with store := removed.2 })
  | .purge faults =>
      let removed := (Store.repository.withFaults faults).purge traffic.store
      (.purged removed.1, { traffic with store := removed.2 })

/-- What comes of a list of steps, and the state that they leave. -/
def trace : List (Move ι) → Traffic ι → List (Event ι) × Traffic ι
  | [], traffic => ([], traffic)
  | move :: moves, traffic =>
      let now := step jobs traffic move
      let later := trace moves now.2
      (now.1 :: later.1, later.2)

variable {jobs} {id : String} {held : Holder ι} {before : List Stored}

theorem step_effect (traffic : Traffic ι) (move : Move ι) :
    Effect jobs traffic.store (step jobs traffic move).1 (step jobs traffic move).2.store := by
  cases move with
  | check i faults =>
      simp only [step]
      cases traffic.progress i with
      | waiting =>
          have same := (jobs i).check_store faults traffic.store
          rcases asked : (jobs i).check faults traffic.store with ⟨_ | _, s⟩
          · rw [asked] at same
            exact .quiet _ _ trivial same
          · rw [asked] at same
            exact .quiet _ _ trivial same
      | _ => exact .quiet _ _ trivial (.inl rfl)
  | finish i faults =>
      simp only [step]
      cases traffic.progress i with
      | admitted =>
          rcases (jobs i).finish_cases faults traffic.store with
            ⟨r, made, free, saved⟩ | ⟨⟨failure, failed⟩, same⟩
          · simp only [close, saved]
            exact .stored i r made free
          · simp only [close, failed]
            exact .quiet _ _ trivial same
      | _ => exact .quiet _ _ trivial (.inl rfl)
  | delete id faults => exact Effect.of_delete traffic.store id faults
  | purge faults => exact Effect.of_purge traffic.store faults

/-- An identity is held after any steps by the holder that their events tell. -/
theorem trace_holds (short : id.utf8ByteSize ≤ longestKeyword) (moves : List (Move ι))
    (traffic : Traffic ι)
    (holds : Holds jobs traffic.store.handle.registry before traffic.store id held) :
    Holds jobs (trace jobs moves traffic).2.store.handle.registry before
      (trace jobs moves traffic).2.store id
      ((trace jobs moves traffic).1.foldl (Event.holder jobs id) held) := by
  induction moves generalizing traffic held with
  | nil => exact holds
  | cons move moves ih => exact ih _ ((step_effect traffic move).holds short holds)

/-- As long as an identity is held, no job under it succeeds before the identity is freed. -/
theorem trace_frees_of_kept (short : id.utf8ByteSize ≤ longestKeyword) (moves : List (Move ι))
    (traffic : Traffic ι) (kept : traffic.store.keptUnder id ≠ [])
    {between after : List (Event ι)} {second : Event ι}
    (log : (trace jobs moves traffic).1 = between ++ second :: after)
    (stores : second.Stores jobs id) : ∃ event ∈ between, event.Frees id := by
  -- A step that does not free the identity leaves it held, and no job succeeds on a held identity.
  induction moves generalizing traffic between with
  | nil => cases (List.append_eq_nil_iff.mp log.symm).2
  | cons move moves ih =>
      have effect : Effect jobs _ _ _ := step_effect traffic move
      cases between with
      | nil =>
          obtain ⟨rfl, -⟩ := List.cons.inj log
          exact absurd (effect.of_stores short stores).1 kept
      | cons event between =>
          obtain ⟨rfl, rest⟩ := List.cons.inj log
          by_cases frees : (step jobs traffic move).1.Frees id
          · exact ⟨_, List.mem_cons_self, frees⟩
          · obtain ⟨event, member, frees⟩ :=
              ih _ (effect.kept_of_not_frees short kept frees) rest
            exact ⟨event, List.mem_cons_of_mem _ member, frees⟩

/-- Between two jobs that succeed under one identity, it is freed. -/
theorem trace_frees (short : id.utf8ByteSize ≤ longestKeyword) (moves : List (Move ι))
    (traffic : Traffic ι) {earlier between after : List (Event ι)} {first second : Event ι}
    (log : (trace jobs moves traffic).1 = earlier ++ first :: between ++ second :: after)
    (stored : first.Stores jobs id) (stores : second.Stores jobs id) :
    ∃ event ∈ between, event.Frees id := by
  -- The steps up to the first success play no part; from it on, the identity is held.
  induction moves generalizing traffic earlier with
  | nil => cases (List.append_eq_nil_iff.mp log.symm).2
  | cons move moves ih =>
      cases earlier with
      | nil =>
          obtain ⟨rfl, rest⟩ := List.cons.inj log
          have kept := ((step_effect traffic move).of_stores short stored).2
          exact trace_frees_of_kept short moves _ kept rest stores
      | cons event earlier =>
          obtain ⟨-, rest⟩ := List.cons.inj log
          exact ih _ rest

theorem step_of_ended (traffic : Traffic ι) (move : Move ι) {i : ι}
    {outcome : Except Failure Unit} (ended : traffic.progress i = .ended outcome) :
    (step jobs traffic move).2.progress i = .ended outcome := by
  have unmoved (j : ι) (progress : Progress) (running : traffic.progress j ≠ .ended outcome) :
      Function.update traffic.progress j progress i = .ended outcome := by
    have apart : i ≠ j := by
      rintro rfl
      exact running ended
    rwa [Function.update_of_ne apart]
  cases move with
  | check j faults =>
      simp only [step]
      cases stage : traffic.progress j with
      | waiting =>
          have running : traffic.progress j ≠ .ended outcome := by
            rw [stage]
            exact Progress.noConfusion
          rcases (jobs j).check faults traffic.store with ⟨_ | _, s⟩
          · exact unmoved j _ running
          · exact unmoved j _ running
      | _ => exact ended
  | finish j faults =>
      simp only [step]
      cases stage : traffic.progress j with
      | admitted =>
          have running : traffic.progress j ≠ .ended outcome := by
            rw [stage]
            exact Progress.noConfusion
          exact unmoved j _ running
      | _ => exact ended
  | delete other faults => exact ended
  | purge faults => exact ended

theorem trace_of_ended (moves : List (Move ι)) (traffic : Traffic ι) {i : ι}
    {outcome : Except Failure Unit} (ended : traffic.progress i = .ended outcome) :
    (trace jobs moves traffic).2.progress i = .ended outcome := by
  induction moves generalizing traffic with
  | nil => exact ended
  | cons move moves ih => exact ih _ (step_of_ended traffic move ended)

/-- An event that ends a job without success is the end of that job. -/
theorem step_of_failure (traffic : Traffic ι) (move : Move ι) {i : ι} {failure : Failure}
    (failed : (step jobs traffic move).1 = .ended i (.error failure)) :
    (step jobs traffic move).2.progress i = .ended (.error failure) := by
  cases move with
  | check j faults =>
      cases stage : traffic.progress j with
      | waiting =>
          simp only [step, stage] at failed ⊢
          rcases asked : (jobs j).check faults traffic.store with ⟨_ | _, s⟩
          · rw [asked] at failed
            cases failed
            exact Function.update_self _ _ _
          · rw [asked] at failed
            cases failed
      | _ =>
          simp only [step, stage, reduceCtorEq] at failed
  | finish j faults =>
      cases stage : traffic.progress j with
      | admitted =>
          simp only [step, stage, close, Event.ended.injEq] at failed ⊢
          obtain ⟨rfl, outcome⟩ := failed
          rw [outcome]
          exact Function.update_self _ _ _
      | _ =>
          simp only [step, stage, reduceCtorEq] at failed
  | delete other faults => cases failed
  | purge faults => cases failed

theorem trace_handle (moves : List (Move ι)) (traffic : Traffic ι) :
    (trace jobs moves traffic).2.store.handle.registry = traffic.store.handle.registry ∧
      (trace jobs moves traffic).2.store.handle.writable = traffic.store.handle.writable := by
  induction moves generalizing traffic with
  | nil => exact ⟨rfl, rfl⟩
  | cons move moves ih =>
      obtain ⟨registry, writable⟩ := ih (step jobs traffic move).2
      have effect : Effect jobs _ _ _ := step_effect traffic move
      exact ⟨registry.trans effect.registry, writable.trans effect.writable⟩

/-- What holds of an identity after steps of jobs and removals, in the state that they leave. -/
structure Serves (jobs : ι → Job) (before : Store) (id : String) (log : List (Event ι))
    (traffic : Traffic ι) : Prop where
  /-- Between two successes under the identity, it was freed. -/
  apart : ∀ earlier first between second after,
    log = earlier ++ first :: between ++ second :: after → first.Stores jobs id →
      second.Stores jobs id → ∃ event ∈ between, event.Frees id
  /-- A job that asks for the identity while it is held fails. -/
  refused_asking : ∀ i faults, (jobs i).id = id → traffic.progress i = .waiting →
    (jobs i).refusal? = none → traffic.store.keptUnder id ≠ [] → faults.holds = none →
      (step jobs traffic (.check i faults)).1 = .ended i (.error (.duplicateIdentity id))
  /-- A job that saves under the identity while it is held fails, whatever it learned before. -/
  refused_saving : ∀ i faults r, (jobs i).id = id → traffic.progress i = .admitted →
    (jobs i).record before.handle.registry = .ok r → traffic.store.keptUnder id ≠ [] →
      before.handle.writable = true → faults.save = none →
        (step jobs traffic (.finish i faults)).1 = .ended i (.error (.duplicateIdentity id))
  /-- The identity has the record of its last success, if it was not freed since. -/
  held : Holds jobs before.handle.registry (before.keptUnder id) traffic.store id
    (log.foldl (Event.holder jobs id) .original)
  found : ∀ i r, log.foldl (Event.holder jobs id) .original = .job i →
    (jobs i).record before.handle.registry = .ok r →
      (Store.find id traffic.store).1 = .ok (some r.floorDates)
  /-- A job that fails changes nothing, and its failure is final. -/
  lost : ∀ move i failure, (step jobs traffic move).1 = .ended i (.error failure) →
    (step jobs traffic move).2.store.index = traffic.store.index ∧
      ∀ more, (trace jobs more (step jobs traffic move).2).2.progress i = .ended (.error failure)

/-- Whatever the order in which jobs take their steps and records are removed, an identity is given
to one job at a time. -/
theorem trace_serves (jobs : ι → Job) (s : Store) (moves : List (Move ι)) {id : String}
    (short : id.utf8ByteSize ≤ longestKeyword) :
    Serves jobs s id (trace jobs moves (start s)).1 (trace jobs moves (start s)).2 := by
  have handle : (trace jobs moves (start s)).2.store.handle.registry = s.handle.registry ∧
      (trace jobs moves (start s)).2.store.handle.writable = s.handle.writable :=
    trace_handle moves (start s)
  obtain ⟨registry, rights⟩ := handle
  have held : Holds jobs s.handle.registry (s.keptUnder id)
      (trace jobs moves (start s)).2.store id
      ((trace jobs moves (start s)).1.foldl (Event.holder jobs id) .original) := by
    have first : Holds jobs s.handle.registry (s.keptUnder id) s id (.original : Holder ι) := rfl
    have last := trace_holds short moves (start s) first
    rwa [registry] at last
  refine ⟨?apart, ?asking, ?saving, held, ?found, ?lost⟩
  case apart =>
    intro earlier first between second after log stored stores
    exact trace_frees short moves (start s) log stored stores
  case asking =>
    intro i faults identity waiting accepted kept asked
    subst identity
    simp only [step, waiting, Job.check_of_kept short kept accepted asked]
    rfl
  case saving =>
    intro i faults r identity admitted made kept writable saved
    subst identity
    have writable := rights.trans writable
    rw [← registry] at made
    simp only [step, admitted, close, Job.finish_of_kept short kept writable made saved]
  case found =>
    intro i r holder made
    rw [holder] at held
    obtain ⟨identity, r', made', only⟩ := held
    rw [made] at made'
    obtain rfl := Except.ok.inj made'
    rw [← registry] at made only
    have complete := (Job.id_and_complete_of_record made).2
    exact congrArg Prod.fst (Store.find_of_keptUnder short complete only)
  case lost =>
    intro move i failure failed
    have still : (step jobs (trace jobs moves (start s)).2 move).1.Quiet := by
      rw [failed]
      trivial
    refine ⟨(step_effect _ move).index_of_quiet still, fun more => ?_⟩
    exact trace_of_ended more _ (step_of_failure _ move failed)

/-- Of two jobs that both found their identity free, the one that saves first is served. -/
theorem trace_serves_first :
    let url : Url := { scheme := "file".toList, path := "/x.txt".toList }
    let jobs : Bool → Job := fun i =>
      .document
        ⟨fun _ => .ok (.ok [if i then 0x61 else 0x62]), fun _ => none, {}, ⟨5, 0, by decide⟩⟩ "b"
        ⟨url, url, some "text/plain"⟩
    let s := Store.inMemory Registry.standard
    let moves : List (Move Bool) := [.check true {}, .check false {}, .finish true {}]
    let result := trace jobs moves (start s)
    "b".utf8ByteSize ≤ longestKeyword ∧
      (step jobs result.2 (.finish false {})).1 = .ended false (.error (.duplicateIdentity "b")) ∧
      (Store.find "b" result.2.store).1 = .ok (some
        { id := "b", contents := some "a", sourceLocation := some url.text,
          metadataLocation := some url.text, title := some "a", mediaType := some "text/plain",
          createdAt := some ⟨5, 0, by decide⟩, modifiedAt := some ⟨5, 0, by decide⟩ }) := by
  intro url jobs s moves result
  have short : "b".utf8ByteSize ≤ longestKeyword := by decide
  have serves := trace_serves jobs s moves short
  let first : Record :=
    { id := "b", contents := some "a", sourceLocation := some url.text,
      metadataLocation := some url.text, title := some "a", mediaType := some "text/plain",
      createdAt := some ⟨5, 0, by decide⟩, modifiedAt := some ⟨5, 0, by decide⟩ }
  let second : Record := { first with contents := some "b", title := some "b" }
  have made : (jobs true).record s.handle.registry = .ok first := by
    subst first s jobs url
    decide +kernel
  have made' : (jobs false).record s.handle.registry = .ok second := by
    subst second first s jobs url
    decide +kernel
  have reached : result.2.progress false = .admitted ∧ result.2.store.keptUnder "b" ≠ [] ∧
      result.1.foldl (Event.holder jobs "b") .original = .job true := by
    subst result moves s jobs url
    decide +kernel
  obtain ⟨admitted, kept, holder⟩ := reached
  refine ⟨short, ?_, ?_⟩
  · exact serves.refused_saving false {} second rfl admitted made' kept rfl rfl
  · exact serves.found true first holder made

end Traffic

end Indexing

end RecordSearch
