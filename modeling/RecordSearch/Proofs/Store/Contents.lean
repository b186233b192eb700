import Mathlib.Data.List.Basic
import RecordSearch.Proofs.Attempt
import RecordSearch.Proofs.Record.Complete
import RecordSearch.Store.Disk
import RecordSearch.Store.Transaction

/-!
# Stores by their contents

`Store.keeping` is the store that keeps given records and whose handle has seen them all.  Every
operation on such a store leaves a store of this form, so each one is described by an equation
between lists of records.
-/

namespace RecordSearch

/-- Whether a record is found under an identity. One that is too long for a keyword is not found. -/
def Record.answersTo (id : String) (r : Record) : Bool :=
  r.id == id && decide (r.id.utf8ByteSize ≤ longestKeyword)

theorem Record.answersTo_iff {id : String} {r : Record} :
    r.answersTo id = true ↔ r.id = id ∧ id.utf8ByteSize ≤ longestKeyword := by
  simp only [answersTo, Bool.and_eq_true, beq_iff_eq, decide_eq_true_eq]
  constructor
  · rintro ⟨rfl, short⟩
    exact ⟨rfl, short⟩
  · rintro ⟨rfl, short⟩
    exact ⟨rfl, short⟩

namespace Store

variable (registry : Registry) (contents : List Record)

/-- The store of a registry that keeps some records, with a handle that may write. -/
def keeping : Store :=
  let kept := contents.map (Stored.ofRecord registry)
  ⟨⟨registry.layout, kept⟩, ⟨registry, true, kept⟩⟩

@[simp]
theorem keeping_registry : (keeping registry contents).handle.registry = registry := rfl

@[simp]
theorem keeping_writable : (keeping registry contents).handle.writable = true := rfl

@[simp]
theorem keeping_records :
    (keeping registry contents).index.records = contents.map (Stored.ofRecord registry) := rfl

@[simp]
theorem keeping_snapshot :
    (keeping registry contents).handle.snapshot = contents.map (Stored.ofRecord registry) := rfl

@[simp]
theorem reload_keeping : (keeping registry contents).reload = keeping registry contents := rfl

@[simp]
theorem commit_keeping (others : List Record) :
    (keeping registry contents).commit (others.map (Stored.ofRecord registry)) =
      keeping registry others := rfl

theorem inMemory_eq_keeping : inMemory registry = keeping registry [] := rfl

theorem openDisk_none {heapBytes : Nat} (enough : Index.heapFault? heapBytes = none) :
    openDisk registry heapBytes none false = .ok (keeping registry []) := by
  simp [openDisk, enough, Index.empty, keeping]

theorem openDisk_keeping {heapBytes : Nat} (enough : Index.heapFault? heapBytes = none) :
    openDisk registry heapBytes (some (keeping registry contents).index) false =
      .ok (keeping registry contents) := by
  simp [openDisk, enough, keeping]

/-- A handle that was just opened has seen all that its index keeps; it may write unless the index
is locked. -/
theorem eq_of_openDisk {registry : Registry} {heapBytes : Nat} {found : Option Index}
    {locked : Bool} {s : Store} (opened : openDisk registry heapBytes found locked = .ok s) :
    s = ⟨found.getD (.empty registry),
      ⟨registry, !locked, (found.getD (.empty registry)).records⟩⟩ := by
  simp only [openDisk] at opened
  split_ifs at opened with _ taken
  · subst taken
    exact (Except.ok.inj opened).symm
  · split at opened
    · cases opened
    · rw [Bool.eq_false_iff.mpr taken]
      exact (Except.ok.inj opened).symm

theorem sees_identity (id : String) (r : Record) :
    (keeping registry contents).handle.sees (.term .id id) (.ofRecord registry r) =
      r.answersTo id := by
  have identity : r.text? .id = some r.id := rfl
  simp only [Handle.sees, keeping_registry, Query.matches', Stored.terms, Stored.text?_ofRecord,
    identity, registry.id_keyword, Kind.terms, Record.answersTo]
  by_cases short : r.id.utf8ByteSize ≤ longestKeyword <;> simp [short]

@[simp]
theorem withIdentity_keeping (id : String) :
    (keeping registry contents).handle.withIdentity id =
      (contents.filter (·.answersTo id)).map (Stored.ofRecord registry) := by
  rw [Handle.withIdentity, keeping_snapshot, List.filter_map]
  congr 2
  funext r
  exact sees_identity registry contents id r

theorem isEmpty_withIdentity_keeping (id : String) :
    ((keeping registry contents).handle.withIdentity id).isEmpty =
      !contents.any (·.answersTo id) := by
  rw [withIdentity_keeping, List.isEmpty_map, List.any_eq_not_all_not, Bool.not_not]
  induction contents with
  | nil => rfl
  | cons r contents inductionHypothesis =>
      by_cases found : r.answersTo id = true <;> simp [found, inductionHypothesis]

theorem holds_keeping (id : String) :
    holds id (keeping registry contents) =
      (.ok (contents.any (·.answersTo id)), keeping registry contents) := by
  simp only [holds_eq, reload_keeping, isEmpty_withIdentity_keeping, Bool.not_not]

/-- Saving adds a record at the end, unless one is found under its identity. -/
theorem save_keeping (r : Record) :
    save r (keeping registry contents) =
      if contents.any (·.answersTo r.id) then
        (.error (.duplicateKey r.id), keeping registry contents)
      else (.ok (), keeping registry (contents ++ [r.floorDates])) := by
  have appended : (keeping registry contents).index.records ++ [.ofRecord registry r] =
      (contents ++ [r.floorDates]).map (Stored.ofRecord registry) := by
    simp [Stored.ofRecord_floorDates]
  simp only [save_eq, keeping_writable, if_true, reload_keeping, isEmpty_withIdentity_keeping,
    keeping_registry, appended, commit_keeping]
  by_cases found : contents.any (·.answersTo r.id) = true <;> simp [found]

theorem delete_keeping (id : String) :
    delete id (keeping registry contents) =
      (.ok (contents.any (·.answersTo id)),
        keeping registry (contents.filter fun r => !r.answersTo id)) := by
  have remaining : ((keeping registry contents).index.records.filter fun d =>
      !(keeping registry contents).handle.sees (.term .id id) d) =
        (contents.filter fun r => !r.answersTo id).map (Stored.ofRecord registry) := by
    rw [keeping_records, List.filter_map]
    congr 2
    funext r
    exact congrArg Bool.not (sees_identity registry contents id r)
  simp only [delete_eq, keeping_writable, if_true, reload_keeping, isEmpty_withIdentity_keeping,
    remaining, commit_keeping]
  by_cases found : contents.any (·.answersTo id) = true
  · simp [found]
  · have absent : ∀ r ∈ contents, r.answersTo id = false := by simpa using found
    have unchanged : (contents.filter fun r => !r.answersTo id) = contents :=
      List.filter_eq_self.mpr fun r member => by simp [absent r member]
    simp [found, unchanged]

theorem purge_keeping : purge (keeping registry contents) = (.ok (), keeping registry []) := rfl

theorem count_keeping :
    count (keeping registry contents) = (.ok contents.length, keeping registry contents) := by
  simp [count_eq]

variable {registry contents}

/-- Records that are settled are handed out as they are. -/
theorem load_keeping {r : Record} (settled : r.Settled registry) :
    (keeping registry contents).handle.load (.ofRecord registry r) = .ok r := by
  simp [Handle.load, settled.toRecord_ofRecord]

theorem mapM_load_keeping {hits : List Record} (settled : ∀ r ∈ hits, r.Settled registry) :
    (hits.map (Stored.ofRecord registry)).mapM (keeping registry contents).handle.load =
      .ok hits :=
  Attempt.mapM_map_eq_ok fun r member => load_keeping (settled r member)

theorem find_keeping (settled : ∀ r ∈ contents, r.Settled registry) (id : String) :
    find id (keeping registry contents) =
      (.ok (contents.find? (·.answersTo id)), keeping registry contents) := by
  simp only [find_eq, reload_keeping, withIdentity_keeping, ← List.head?_filter]
  cases found : contents.filter (·.answersTo id) with
  | nil => rfl
  | cons r others =>
      have member : r ∈ contents := List.mem_of_mem_filter (by rw [found]; simp)
      simp only [List.map_cons, List.head?_cons, Option.elim_some,
        load_keeping (settled r member)]
      rfl

/-- A query finds each matching record once, and none is cut off. -/
theorem query_keeping (settled : ∀ r ∈ contents, r.Settled registry) (q : Query) :
    query q (keeping registry contents) =
      (.ok (contents.filter fun r => q.matches' registry.kind (.ofRecord registry r)),
        keeping registry contents) := by
  have hits : (contents.map (Stored.ofRecord registry)).filter
      ((keeping registry contents).handle.sees q) =
        (contents.filter fun r => q.matches' registry.kind (.ofRecord registry r)).map
          (Stored.ofRecord registry) := by
    rw [List.filter_map]
    rfl
  have bounded : ((contents.filter fun r => q.matches' registry.kind (.ofRecord registry r)).map
      (Stored.ofRecord registry)).length ≤ max 1 contents.length := by
    have := List.length_filter_le (fun r => q.matches' registry.kind (.ofRecord registry r))
      contents
    rw [List.length_map]
    omega
  have settledHits : ∀ r ∈ contents.filter fun r => q.matches' registry.kind (.ofRecord registry r),
      r.Settled registry := fun r member => settled r (List.mem_of_mem_filter member)
  simp only [query_eq, reload_keeping, keeping_snapshot, hits, List.length_map,
    List.take_of_length_le bounded, mapM_load_keeping settledHits]

end Store

end RecordSearch
