import Mathlib.Data.Multiset.Basic
import RecordSearch.Proofs.Service.Preparation
import RecordSearch.Proofs.Store.Contents
import RecordSearch.Service.Search

/-!
# Operations and runs

An operation names a call of a store together with its arguments.  What it does is a function from
a state to an answer and a state, and `trace` puts such functions one after another.  Whatever is
saved, deleted and opened again, a store keeps settled records only.
-/

namespace RecordSearch

namespace Store

inductive Operation where
  | save (r : Record)
  | find (id : String)
  | holds (id : String)
  | delete (id : String)
  | purge
  | count
  /-- A search for all records. -/
  | list
  /-- The index is closed and opened again, with some memory for its writer. -/
  | reopen (heapBytes : Nat)

inductive Answer where
  | done
  | flag (b : Bool)
  | found (r : Option Record)
  | number (n : Nat)
  | listing (hits : Multiset Record)
  | refused (fault : StoreFault)
  | failed (failure : Failure)

def Answer.of {α σ : Type} (make : α → Answer) : Except StoreFault α × σ → Answer × σ
  | (.ok a, s) => (make a, s)
  | (.error fault, s) => (.refused fault, s)

namespace Operation

/-- What an operation does to a store. -/
def run (op : Operation) (s : Store) : Answer × Store :=
  match op with
  | save r => Answer.of (fun _ => .done) (Store.save r s)
  | find id => Answer.of .found (Store.find id s)
  | holds id => Answer.of .flag (Store.holds id s)
  | delete id => Answer.of .flag (Store.delete id s)
  | purge => Answer.of (fun _ => .done) (Store.purge s)
  | count => Answer.of .number (Store.count s)
  | list =>
      match Search.records s.handle.registry Store.repository "INCLUDE" s with
      | (.ok hits, s) => (.listing hits, s)
      | (.error failure, s) => (.failed failure, s)
  | reopen heapBytes =>
      match openDisk s.handle.registry heapBytes (some s.index) false with
      | .ok s => (.done, s)
      | .error fault => (.refused fault, s)

/-- The answers to a list of operations, and the state that they leave. -/
def trace {σ : Type} (step : Operation → σ → Answer × σ) : List Operation → σ → List Answer × σ
  | [], s => ([], s)
  | op :: ops, s =>
      let now := step op s
      let later := trace step ops now.2
      (now.1 :: later.1, later.2)

/-- Records are made under the registry, and an index is opened with enough memory. -/
def Proper (registry : Registry) : Operation → Prop
  | save r => r.Built registry
  | reopen heapBytes => Index.heapFault? heapBytes = none
  | _ => True

end Operation

inductive Fresh (registry : Registry) : Store → Prop where
  | memory : Fresh registry (inMemory registry)
  | folder {heapBytes : Nat} {s : Store} :
      openDisk registry heapBytes none false = .ok s → Fresh registry s

theorem Fresh.eq_keeping {registry : Registry} {s : Store} (fresh : Fresh registry s) :
    s = keeping registry [] := by
  cases fresh with
  | memory => exact inMemory_eq_keeping registry
  | @folder heapBytes _ opened =>
      cases enough : Index.heapFault? heapBytes with
      | none =>
          rw [openDisk_none registry enough] at opened
          exact (Except.ok.inj opened).symm
      | some fault => simp [openDisk, enough, Index.empty] at opened

variable {registry : Registry} {contents : List Record}

/-- A search finds each record that the query matches, once. -/
theorem records_keeping {q : String} {prepared : PreparedQuery}
    (settled : ∀ r ∈ contents, r.Settled registry)
    (accepted : PreparedQuery.ofText registry q = .ok prepared) :
    Search.records registry Store.repository q (keeping registry contents) =
      (.ok (contents.filter fun r =>
          prepared.query.matches' registry.kind (.ofRecord registry r)),
        keeping registry contents) := by
  simp only [Search.records, accepted, repository, query_keeping settled]

theorem records_include (settled : ∀ r ∈ contents, r.Settled registry) :
    Search.records registry Store.repository "INCLUDE" (keeping registry contents) =
      (.ok contents, keeping registry contents) := by
  have accepted : PreparedQuery.ofText registry "INCLUDE" = .ok ⟨.all, .everything, .extended⟩ :=
    PreparedQuery.ofText_of_compiled (Dialect.means_extended Dialect.read_include) nofun rfl
  have everything : (contents.filter fun r =>
      Query.all.matches' registry.kind (.ofRecord registry r)) = contents :=
    List.filter_eq_self.mpr fun _ _ => by simp [Query.matches']
  rw [records_keeping settled accepted, everything]

theorem Operation.run_keeping (settled : ∀ r ∈ contents, r.Settled registry) {op : Operation}
    (proper : op.Proper registry) :
    ∃ others, (op.run (keeping registry contents)).2 = keeping registry others ∧
      ∀ r ∈ others, r.Settled registry := by
  cases op with
  | save r =>
      rw [run, save_keeping]
      by_cases taken : contents.any (·.answersTo r.id) = true
      · rw [if_pos taken]
        exact ⟨contents, rfl, settled⟩
      · rw [if_neg taken]
        refine ⟨contents ++ [r.floorDates], rfl, fun r' member => ?_⟩
        rcases List.mem_append.mp member with before | new
        · exact settled r' before
        · rw [List.mem_singleton.mp new]
          exact (Record.Built.complete proper).settled
  | find id => exact ⟨contents, by rw [run, find_keeping settled]; rfl, settled⟩
  | holds id => exact ⟨contents, by rw [run, holds_keeping]; rfl, settled⟩
  | delete id =>
      refine ⟨_, by rw [run, delete_keeping]; rfl, fun r' member => ?_⟩
      exact settled r' (List.mem_of_mem_filter member)
  | purge => exact ⟨[], rfl, by simp⟩
  | count => exact ⟨contents, rfl, settled⟩
  | list =>
      exact ⟨contents, by rw [run, keeping_registry, records_include settled], settled⟩
  | reopen heapBytes =>
      refine ⟨contents, ?_, settled⟩
      rw [run, keeping_registry, openDisk_keeping registry contents proper]

theorem Operation.trace_keeping (settled : ∀ r ∈ contents, r.Settled registry)
    {ops : List Operation} (proper : ∀ op ∈ ops, op.Proper registry) :
    ∃ others, (trace run ops (keeping registry contents)).2 = keeping registry others ∧
      ∀ r ∈ others, r.Settled registry := by
  induction ops generalizing contents with
  | nil => exact ⟨contents, rfl, settled⟩
  | cons op ops inductionHypothesis =>
      obtain ⟨middle, step, settledMiddle⟩ := run_keeping settled (proper op (by simp))
      obtain ⟨others, rest, settledOthers⟩ := inductionHypothesis settledMiddle
        fun op' member => proper op' (List.mem_cons_of_mem _ member)
      exact ⟨others, by rw [trace, step]; exact rest, settledOthers⟩

/-- A run of a store that was just made leaves a store of settled records. -/
theorem Operation.trace_fresh {s : Store} {ops : List Operation} (fresh : Fresh registry s)
    (proper : ∀ op ∈ ops, op.Proper registry) :
    ∃ contents, (trace run ops s).2 = keeping registry contents ∧
      ∀ r ∈ contents, r.Settled registry := by
  rw [fresh.eq_keeping]
  exact trace_keeping (List.forall_mem_nil _) proper

end Store

end RecordSearch
