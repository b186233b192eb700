import Mathlib.Data.Finmap
import RecordSearch.Proofs.Store.Operation

/-!
# A store is a map from identities to records

A `Catalog` is a finite map from identities to records.  Every operation is specified by what it
does to a catalog, and a run of a store gives the answers that the same run of a catalog gives, as
long as no identity is too long to be found.
-/

namespace RecordSearch

namespace Store

/-- The records of a store under their identities. -/
abbrev Catalog := Finmap fun _ : String => Record

namespace Operation

/-- What an operation does to a catalog. A record is kept with its dates in whole seconds. -/
def spec (op : Operation) (m : Catalog) : Answer × Catalog :=
  match op with
  | save r =>
      if r.id ∈ m then (.refused (.duplicateKey r.id), m)
      else (.done, m.insert r.id r.floorDates)
  | find id => (.found (m.lookup id), m)
  | holds id => (.flag (decide (id ∈ m)), m)
  | delete id => (.flag (decide (id ∈ m)), m.erase id)
  | purge => (.done, ∅)
  | count => (.number m.keys.card, m)
  | list => (.listing (m.entries.map Sigma.snd), m)
  | reopen _ => (.done, m)

/-- No record is saved under an identity that is too long for a keyword. -/
def Short : Operation → Prop
  | save r => r.id.utf8ByteSize ≤ longestKeyword
  | _ => True

end Operation

def entry (r : Record) : Σ _ : String, Record := ⟨r.id, r⟩

structure Lists (registry : Registry) (contents : List Record) (m : Catalog) : Prop where
  settled : ∀ r ∈ contents, r.Settled registry
  short : ∀ r ∈ contents, r.id.utf8ByteSize ≤ longestKeyword
  entries : m.entries = (contents.map entry : List (Σ _ : String, Record))

namespace Lists

variable {registry : Registry} {contents : List Record} {m : Catalog}

theorem empty : Lists registry [] ∅ where
  settled := by simp
  short := by simp
  entries := rfl

theorem mem_entries (lists : Lists registry contents m) {id : String} {r : Record} :
    ⟨id, r⟩ ∈ m.entries ↔ r ∈ contents ∧ r.id = id := by
  rw [lists.entries, Multiset.mem_coe, List.mem_map]
  constructor
  · rintro ⟨r', member, same⟩
    cases same
    exact ⟨member, rfl⟩
  · rintro ⟨member, rfl⟩
    exact ⟨r, member, rfl⟩

theorem lookup_eq_some (lists : Lists registry contents m) {id : String} {r : Record} :
    m.lookup id = some r ↔ r ∈ contents ∧ r.id = id := by
  rw [Finmap.lookup_eq_some_iff, lists.mem_entries]

theorem answersTo_iff (lists : Lists registry contents m) {id : String} {r : Record}
    (member : r ∈ contents) : r.answersTo id = true ↔ r.id = id := by
  rw [Record.answersTo_iff]
  constructor
  · exact And.left
  · rintro rfl
    exact ⟨rfl, lists.short r member⟩

theorem any_answersTo (lists : Lists registry contents m) (id : String) :
    contents.any (·.answersTo id) = decide (id ∈ m) := by
  rw [Bool.eq_iff_iff, List.any_eq_true, decide_eq_true_iff, Finmap.mem_iff]
  constructor
  · rintro ⟨r, member, found⟩
    exact ⟨r, lists.lookup_eq_some.mpr ⟨member, (lists.answersTo_iff member).mp found⟩⟩
  · rintro ⟨r, found⟩
    obtain ⟨member, same⟩ := lists.lookup_eq_some.mp found
    exact ⟨r, member, (lists.answersTo_iff member).mpr same⟩

theorem find_answersTo (lists : Lists registry contents m) (id : String) :
    contents.find? (·.answersTo id) = m.lookup id := by
  cases found : contents.find? (·.answersTo id) with
  | none =>
      have absent : m.lookup id = none := by
        rw [Option.eq_none_iff_forall_ne_some]
        intro r held
        obtain ⟨member, same⟩ := lists.lookup_eq_some.mp held
        exact List.find?_eq_none.mp found r member ((lists.answersTo_iff member).mpr same)
      exact absent.symm
  | some r =>
      have member := List.mem_of_find?_eq_some found
      have same := (lists.answersTo_iff member).mp (List.find?_some found)
      exact (lists.lookup_eq_some.mpr ⟨member, same⟩).symm

theorem nodup_identities (lists : Lists registry contents m) :
    (contents.map Record.id).Nodup := by
  have nodup := m.nodupKeys
  rw [lists.entries, Multiset.coe_nodupKeys, List.NodupKeys, List.keys, List.map_map] at nodup
  exact nodup

theorem filter_answersTo (lists : Lists registry contents m) (id : String) :
    contents.filter (·.answersTo id) = (contents.find? (·.answersTo id)).toList := by
  rw [← List.head?_filter]
  have among : ∀ r ∈ contents.filter (·.answersTo id), r.id = id := fun r member =>
    (lists.answersTo_iff (List.mem_of_mem_filter member)).mp (List.of_mem_filter member)
  have nodup : ((contents.filter (·.answersTo id)).map Record.id).Nodup :=
    lists.nodup_identities.sublist (List.filter_sublist.map Record.id)
  cases found : contents.filter (·.answersTo id) with
  | nil => rfl
  | cons r others =>
      rw [found] at among nodup
      cases others with
      | nil => rfl
      | cons r' others =>
          -- Two records of one identity cannot both be kept.
          have same : r.id = r'.id := (among r (by simp)).trans (among r' (by simp)).symm
          obtain ⟨apart, -⟩ := List.nodup_cons.mp nodup
          exact absurd (same ▸ List.mem_cons_self) apart

theorem card_keys (lists : Lists registry contents m) : m.keys.card = contents.length := by
  show Multiset.card m.entries.keys = _
  rw [lists.entries, Multiset.coe_keys, Multiset.coe_card, List.keys, List.length_map,
    List.length_map]

theorem listing (lists : Lists registry contents m) :
    m.entries.map Sigma.snd = (contents : Multiset Record) := by
  rw [lists.entries, Multiset.map_coe, List.map_map]
  simp [Function.comp_def, entry]

theorem insert (lists : Lists registry contents m) {r : Record} (settled : r.Settled registry)
    (short : r.id.utf8ByteSize ≤ longestKeyword) (absent : r.id ∉ m) :
    Lists registry (contents ++ [r]) (m.insert r.id r) where
  settled := by
    intro r' member
    rcases List.mem_append.mp member with before | new
    · exact lists.settled r' before
    · rwa [List.mem_singleton.mp new]
  short := by
    intro r' member
    rcases List.mem_append.mp member with before | new
    · exact lists.short r' before
    · rwa [List.mem_singleton.mp new]
  entries := by
    rw [Finmap.entries_insert_of_notMem absent, lists.entries, List.map_append, Multiset.cons_coe,
      Multiset.coe_eq_coe]
    exact (List.perm_append_singleton _ _).symm

theorem erase (lists : Lists registry contents m) (id : String) :
    Lists registry (contents.filter fun r => !r.answersTo id) (m.erase id) where
  settled r member := lists.settled r (List.mem_of_mem_filter member)
  short r member := lists.short r (List.mem_of_mem_filter member)
  entries := by
    have nodup : (contents.map entry).Nodup := by
      rw [← Multiset.coe_nodup, ← lists.entries]
      exact m.nodup_entries
    have remaining : ((contents.filter fun r => !r.answersTo id).map entry).Nodup :=
      nodup.sublist (List.filter_sublist.map entry)
    refine ((m.erase id).nodup_entries.ext (Multiset.coe_nodup.mpr remaining)).mpr ?_
    rintro ⟨key, r⟩
    rw [← Finmap.lookup_eq_some_iff, Multiset.mem_coe, List.mem_map]
    by_cases same : key = id
    · subst same
      rw [Finmap.lookup_erase]
      constructor
      · rintro ⟨⟩
      · rintro ⟨r', kept, ⟨⟩⟩
        obtain ⟨member, other⟩ := List.mem_filter.mp kept
        rw [(lists.answersTo_iff member).mpr rfl] at other
        exact absurd other (by decide)
    · rw [Finmap.lookup_erase_ne same, lists.lookup_eq_some]
      constructor
      · rintro ⟨member, rfl⟩
        have other : r.answersTo id = false := by
          rw [Bool.eq_false_iff]
          exact fun found => same ((lists.answersTo_iff member).mp found)
        exact ⟨r, List.mem_filter.mpr ⟨member, by simp [other]⟩, rfl⟩
      · rintro ⟨r', kept, ⟨⟩⟩
        exact ⟨List.mem_of_mem_filter kept, rfl⟩

end Lists

/-- A store and a catalog with the same records. -/
def Matches (registry : Registry) (s : Store) (m : Catalog) : Prop :=
  ∃ contents, s = keeping registry contents ∧ Lists registry contents m

variable {registry : Registry}

theorem Fresh.matches_empty {s : Store} (fresh : Fresh registry s) : Matches registry s ∅ :=
  ⟨[], fresh.eq_keeping, .empty⟩

namespace Operation

theorem run_matches {s : Store} {m : Catalog} (same : Matches registry s m) {op : Operation}
    (proper : op.Proper registry) (short : op.Short) :
    (op.run s).1 = (op.spec m).1 ∧ Matches registry (op.run s).2 (op.spec m).2 := by
  obtain ⟨contents, rfl, lists⟩ := same
  cases op with
  | save r =>
      rw [run, spec, save_keeping, lists.any_answersTo]
      by_cases taken : r.id ∈ m
      · rw [if_pos (decide_eq_true taken), if_pos taken]
        exact ⟨rfl, contents, rfl, lists⟩
      · rw [if_neg (by simpa using taken), if_neg taken]
        have settled := (Record.Built.complete proper).settled
        exact ⟨rfl, _, rfl, lists.insert settled short taken⟩
  | find id =>
      rw [run, spec, find_keeping lists.settled, lists.find_answersTo]
      exact ⟨rfl, contents, rfl, lists⟩
  | holds id =>
      rw [run, spec, holds_keeping, lists.any_answersTo]
      exact ⟨rfl, contents, rfl, lists⟩
  | delete id =>
      rw [run, spec, delete_keeping, lists.any_answersTo]
      exact ⟨rfl, _, rfl, lists.erase id⟩
  | purge =>
      rw [run, spec, purge_keeping]
      exact ⟨rfl, [], rfl, .empty⟩
  | count =>
      rw [run, spec, count_keeping, lists.card_keys]
      exact ⟨rfl, contents, rfl, lists⟩
  | list =>
      rw [run, spec, keeping_registry, records_include lists.settled, lists.listing]
      exact ⟨rfl, contents, rfl, lists⟩
  | reopen heapBytes =>
      rw [run, spec, keeping_registry, openDisk_keeping registry contents proper]
      exact ⟨rfl, contents, rfl, lists⟩

/-- A run answers as its specification says. -/
theorem trace_matches {s : Store} {m : Catalog} (same : Matches registry s m)
    {ops : List Operation} (proper : ∀ op ∈ ops, op.Proper registry)
    (short : ∀ op ∈ ops, op.Short) :
    (trace run ops s).1 = (trace spec ops m).1 ∧
      Matches registry (trace run ops s).2 (trace spec ops m).2 := by
  induction ops generalizing s m with
  | nil => exact ⟨rfl, same⟩
  | cons op ops inductionHypothesis =>
      obtain ⟨answer, next⟩ := run_matches same (proper op (by simp)) (short op (by simp))
      obtain ⟨answers, last⟩ := inductionHypothesis next
        (fun op' member => proper op' (List.mem_cons_of_mem op member))
        (fun op' member => short op' (List.mem_cons_of_mem op member))
      exact ⟨congrArg₂ List.cons answer answers, last⟩

end Operation

/-- A store that was just made answers every run as an empty catalog does. -/
theorem trace_eq_spec {s : Store} (fresh : Fresh registry s) {ops : List Operation}
    (proper : ∀ op ∈ ops, op.Proper registry) (short : ∀ op ∈ ops, op.Short) :
    (Operation.trace Operation.run ops s).1 = (Operation.trace Operation.spec ops ∅).1 :=
  (Operation.trace_matches fresh.matches_empty proper short).1

/-- A record with a fraction in its date is refused twice, deleted, saved again and found after the
index was opened again. -/
theorem trace_eq_spec_reopened :
    (Operation.trace Operation.run
      [.save { id := "a", createdAt := some ⟨5, 7, by decide⟩ }, .save { id := "a" }, .delete "a",
        .save { id := "a", createdAt := some ⟨5, 7, by decide⟩ }, .reopen 15000000, .find "a",
        .count]
      (keeping Registry.standard [])).1 =
      [.done, .refused (.duplicateKey "a"), .flag true, .done, .done,
        .found (some { id := "a", createdAt := some ⟨5, 0, by decide⟩ }), .number 1] := by
  have enough : Index.heapFault? 15000000 = none := by decide
  have dated : Record.Built Registry.standard
      { id := "a", createdAt := some ⟨5, 7, by decide⟩ } :=
    ⟨"a", [.date "createdAt" ⟨5, 7, by decide⟩], by decide⟩
  have bare : Record.Built Registry.standard { id := "a" } := ⟨"a", [], by decide⟩
  refine (trace_eq_spec (.folder (openDisk_none Registry.standard enough)) ?_ ?_).trans ?_
  · simp [Operation.Proper, dated, bare, enough]
  · have short : "a".utf8ByteSize ≤ longestKeyword := by decide
    simp [Operation.Short, short]
  · rfl

end Store

end RecordSearch
