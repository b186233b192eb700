import RecordSearch.Proofs.Store.Identity

/-!
# What a store keeps under one identity

An identity that is not too long for a keyword is found exactly where a record has it, whatever else
an index holds.  So every operation on any store is told by what the store keeps under the identity
that the operation is about.
-/

namespace RecordSearch

namespace Store

variable {s : Store} {id : String} {r : Record}

theorem sees_term_id (h : Handle) (id : String) (d : Stored) :
    h.sees (.term .id id) d =
      (d.text? .id == some id && decide (id.utf8ByteSize ≤ longestKeyword)) := by
  simp only [Handle.sees, Query.matches', Stored.terms, h.registry.id_keyword, Kind.terms]
  cases held : d.text? .id with
  | none => rfl
  | some other =>
      by_cases same : other = id
      · subst same
        by_cases short : other.utf8ByteSize ≤ longestKeyword <;> simp [short]
      · by_cases short : other.utf8ByteSize ≤ longestKeyword <;> simp [short, same]

theorem sees_term_id_of_short (short : id.utf8ByteSize ≤ longestKeyword) (h : Handle) (d : Stored) :
    h.sees (.term .id id) d = (d.text? .id == some id) := by
  rw [sees_term_id, decide_eq_true short, Bool.and_true]

theorem withIdentity_reload (short : id.utf8ByteSize ≤ longestKeyword) :
    s.reload.handle.withIdentity id = s.keptUnder id := by
  rw [Handle.withIdentity, keptUnder]
  apply List.filter_congr
  intro d _
  exact sees_term_id_of_short short _ d

@[simp]
theorem index_reload (s : Store) : s.reload.index = s.index := rfl

theorem keptUnder_commit_append (s : Store) (registry : Registry) (r : Record) (id : String) :
    (s.commit (s.index.records ++ [.ofRecord registry r])).keptUnder id =
      s.keptUnder id ++ if r.id = id then [.ofRecord registry r] else [] := by
  have identity : (Stored.ofRecord registry r).text? .id = some r.id := Stored.text?_ofRecord _ _ _
  show (s.index.records ++ [Stored.ofRecord registry r]).filter _ = _
  rw [List.filter_append, keptUnder]
  by_cases same : r.id = id
  · simp [identity, same]
  · simp [identity, same]

theorem keptUnder_commit_filter (short : id.utf8ByteSize ≤ longestKeyword) (s : Store)
    (other : String) :
    (s.commit (s.index.records.filter fun d =>
      !s.handle.sees (.term .id other) d)).keptUnder id =
        if other = id then [] else s.keptUnder id := by
  show (s.index.records.filter _).filter _ = _
  rw [List.filter_filter]
  by_cases same : other = id
  · subst same
    rw [if_pos rfl, List.filter_eq_nil_iff]
    intro d _
    rw [sees_term_id_of_short short]
    simp
  · rw [if_neg same, keptUnder]
    apply List.filter_congr
    intro d _
    rw [sees_term_id]
    by_cases held : d.text? .id = some id
    · have apart : ¬ id = other := fun equal => same equal.symm
      simp [held, apart]
    · simp [held]

theorem holds_of_short (short : id.utf8ByteSize ≤ longestKeyword) (s : Store) :
    holds id s = (.ok !(s.keptUnder id).isEmpty, s.reload) := by
  simp only [holds_eq, withIdentity_reload short]

theorem save_of_short (short : r.id.utf8ByteSize ≤ longestKeyword)
    (writable : s.handle.writable = true) :
    save r s =
      if (s.keptUnder r.id).isEmpty then
        (.ok (), s.commit (s.index.records ++ [.ofRecord s.handle.registry r]))
      else (.error (.duplicateKey r.id), s.reload) := by
  simp only [save_eq, writable, if_true, withIdentity_reload short]

/-- Whatever the identity of a record, a store either keeps the record besides or keeps what it
kept. -/
theorem save_cases (writable : s.handle.writable = true) (r : Record) :
    (save r s = (.ok (), s.commit (s.index.records ++ [.ofRecord s.handle.registry r])) ∧
      (r.id.utf8ByteSize ≤ longestKeyword → s.keptUnder r.id = [])) ∨
    (save r s = (.error (.duplicateKey r.id), s.reload) ∧
      (r.id.utf8ByteSize ≤ longestKeyword → s.keptUnder r.id ≠ [])) := by
  by_cases free : (s.reload.handle.withIdentity r.id).isEmpty = true
  · left
    refine ⟨?_, fun short => ?_⟩
    · simp only [save_eq, writable, if_true, free]
    · rwa [withIdentity_reload short, List.isEmpty_iff] at free
  · right
    refine ⟨?_, fun short => ?_⟩
    · simp only [save_eq, writable, if_true, free, Bool.false_eq_true, if_false]
    · rwa [withIdentity_reload short, List.isEmpty_iff] at free

theorem delete_cases (writable : s.handle.writable = true) (id : String) :
    delete id s = (.ok true, s.commit (s.index.records.filter fun d =>
      !s.handle.sees (.term .id id) d)) ∨ delete id s = (.ok false, s.reload) := by
  by_cases free : (s.reload.handle.withIdentity id).isEmpty = true
  · right
    simp only [delete_eq, writable, if_true, free]
  · left
    simp only [delete_eq, writable, if_true, free, Bool.false_eq_true, if_false]

theorem purge_of_writable (writable : s.handle.writable = true) :
    purge s = (.ok (), s.commit []) := by
  simp only [purge_eq, writable, if_true]

/-- The only record under an identity is handed out, with its dates in whole seconds. -/
theorem find_of_keptUnder (short : id.utf8ByteSize ≤ longestKeyword)
    (complete : r.Complete s.handle.registry)
    (only : s.keptUnder id = [.ofRecord s.handle.registry r]) :
    find id s = (.ok (some r.floorDates), s.reload) := by
  have loaded : s.reload.handle.load (.ofRecord s.handle.registry r) = .ok r.floorDates := by
    have settled := complete.settled.toRecord_ofRecord s.handle.registry
    rw [Stored.ofRecord_floorDates] at settled
    have same : s.reload.handle.registry = s.handle.registry := rfl
    simp only [Handle.load, same, settled]
  simp only [find_eq, withIdentity_reload short, only, List.head?_cons, Option.elim_some, loaded]
  rfl

end Store

end RecordSearch
