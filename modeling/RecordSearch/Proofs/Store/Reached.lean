import RecordSearch.Proofs.Service.Interleaving
import RecordSearch.Proofs.Store.Identity

/-!
# What requests leave in a store

Whether documents, envelopes or records are saved, a store that requests have made of a new one
keeps settled records, and one at most of each identity that is not too long.  Every handle of its
registry finds them all in a query, whatever it has seen before and whether or not it may write.
-/

namespace RecordSearch

namespace Store

variable {registry : Registry} {contents : List Record} {s : Store} {r : Record}

/-- A store of settled records. -/
def KeepsSettled (registry : Registry) (s : Store) : Prop :=
  ∃ contents, s = keeping registry contents ∧ ∀ r ∈ contents, r.Settled registry

namespace KeepsSettled

theorem save (keeps : KeepsSettled registry s) (complete : r.Complete registry) :
    KeepsSettled registry (Store.save r s).2 := by
  obtain ⟨contents, rfl, settled⟩ := keeps
  rw [save_keeping]
  split
  · exact ⟨contents, rfl, settled⟩
  · refine ⟨contents ++ [r.floorDates], rfl, fun r' member => ?_⟩
    rcases List.mem_append.mp member with old | new
    · exact settled r' old
    · rw [List.mem_singleton.mp new]
      exact complete.settled

theorem delete (keeps : KeepsSettled registry s) (id : String) :
    KeepsSettled registry (Store.delete id s).2 := by
  obtain ⟨contents, rfl, settled⟩ := keeps
  rw [delete_keeping]
  exact ⟨_, rfl, fun r member => settled r (List.mem_of_mem_filter member)⟩

theorem purge (keeps : KeepsSettled registry s) : KeepsSettled registry (Store.purge s).2 := by
  obtain ⟨contents, rfl, -⟩ := keeps
  exact ⟨[], rfl, List.forall_mem_nil _⟩

theorem indexing (keeps : KeepsSettled registry s) (id : String) {made : Except Failure Record}
    (complete : ∀ r, made = .ok r → r.Complete registry) :
    KeepsSettled registry (Indexing.run repository id made s).2 := by
  have asked : (Indexing.precheck repository id s).2 = s := by
    obtain ⟨contents, rfl, -⟩ := keeps
    simp only [Indexing.precheck_state, repository, holds_keeping]
  rcases checked : Indexing.precheck repository id s with ⟨outcome, s'⟩
  rw [checked] at asked
  obtain rfl : s' = s := asked
  cases outcome with
  | error failure => simpa only [Indexing.run, checked] using keeps
  | ok _ =>
      cases made with
      | error failure => simpa only [Indexing.run, checked] using keeps
      | ok r =>
          simpa only [Indexing.run, checked, snd_commit] using keeps.save (complete r rfl)

end KeepsSettled

theorem KeepsSettled.run (keeps : KeepsSettled registry s) {request : Write}
    (proper : request.Proper registry) : KeepsSettled registry (request.run registry s) := by
  cases request with
  | index w id request =>
      exact keeps.indexing id fun r made =>
        (Indexing.Job.id_and_complete_of_record
          (show (Indexing.Job.document w id request).record registry = .ok r from made)).2
  | envelope id mediaType payload =>
      simp only [Write.run, Indexing.indexEnvelope]
      split
      · exact keeps.indexing id fun r made =>
          (Indexing.Job.id_and_complete_of_record
            (show (Indexing.Job.envelope id mediaType payload).record registry = .ok r from made)).2
      · exact keeps
  | save r => exact keeps.save (Record.Built.complete proper)
  | delete id => exact keeps.delete id
  | purge => exact keeps.purge

theorem Reachable.keepsSettled (reachable : Reachable registry s) : KeepsSettled registry s := by
  induction reachable with
  | fresh new => exact ⟨[], new.eq_keeping, List.forall_mem_nil _⟩
  | step _ proper inductionHypothesis => exact inductionHypothesis.run proper

theorem Reachable.exists_contents (reachable : Reachable registry s) :
    ∃ contents, s = keeping registry contents ∧ (∀ r ∈ contents, r.Settled registry) ∧
      ∀ id, id.utf8ByteSize ≤ longestKeyword → AtMostOne id contents := by
  obtain ⟨contents, same, settled⟩ := reachable.keepsSettled
  refine ⟨contents, same, settled, fun id short => ?_⟩
  have once := (keepsOnce_of_short short reachable).unique
  rwa [same, keptUnder_keeping, List.length_map] at once

structure Attached (registry : Registry) (s : Store) : Prop where
  owner : s.handle.registry = registry
  index : ∃ s', Reachable registry s' ∧ s.index = s'.index

theorem Reachable.attached (reachable : Reachable registry s) : Attached registry s := by
  refine ⟨?_, s, reachable, rfl⟩
  obtain ⟨contents, rfl, -⟩ := reachable.exists_contents
  rfl

/-- What a handle has seen and may do makes no difference to a query. -/
theorem query_eq_of_same {s' : Store} (owner : s.handle.registry = s'.handle.registry)
    (index : s.index = s'.index) (q : Query) : query q s = ((query q s').1, s.reload) := by
  obtain ⟨kept, ⟨registry, writable, seen⟩⟩ := s
  obtain ⟨kept', ⟨registry', writable', seen'⟩⟩ := s'
  obtain rfl : registry = registry' := owner
  obtain rfl : kept = kept' := index
  rfl

namespace Attached

variable {q : Query}

theorem exists_contents (attached : Attached registry s) :
    ∃ contents, (∀ q, query q s = (.ok (contents.filter fun r =>
        q.matches' registry.kind (.ofRecord registry r)), s.reload)) ∧
      ∀ id, id.utf8ByteSize ≤ longestKeyword → AtMostOne id contents := by
  obtain ⟨owner, s', reachable, index⟩ := attached
  obtain ⟨contents, rfl, settled, once⟩ := reachable.exists_contents
  refine ⟨contents, fun q => ?_, once⟩
  have same : query q s = ((query q (keeping registry contents)).1, s.reload) :=
    query_eq_of_same owner index q
  rw [same, query_keeping settled]

theorem exists_hits (attached : Attached registry s) (q : Query) :
    ∃ hits, query q s = (.ok hits, s.reload) := by
  obtain ⟨contents, found, -⟩ := attached.exists_contents
  exact ⟨_, found q⟩

theorem nodup_identities {hits : List Record} {s' : Store} (attached : Attached registry s)
    (found : query q s = (.ok hits, s'))
    (short : ∀ r ∈ hits, r.id.utf8ByteSize ≤ longestKeyword) : (hits.map Record.id).Nodup := by
  obtain ⟨contents, finds, once⟩ := attached.exists_contents
  rw [finds] at found
  obtain rfl := Except.ok.inj (congrArg Prod.fst found)
  rw [List.nodup_iff_count_le_one]
  intro id
  by_cases among : id ∈ (contents.filter fun r =>
      q.matches' registry.kind (.ofRecord registry r)).map Record.id
  · obtain ⟨r, member, rfl⟩ := List.mem_map.mp among
    rw [List.count_eq_countP, List.countP_map, List.countP_eq_length_filter]
    have fewer : ((contents.filter fun r =>
        q.matches' registry.kind (.ofRecord registry r)).filter (·.id == r.id)).length ≤
          (contents.filter (·.id == r.id)).length :=
      (List.filter_sublist.filter _).length_le
    exact fewer.trans (once r.id (short r member))
  · rw [List.count_eq_zero_of_not_mem among]
    exact Nat.zero_le 1

end Attached

end Store

end RecordSearch
