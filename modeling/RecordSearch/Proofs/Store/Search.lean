import Mathlib.Data.Multiset.Filter
import RecordSearch.Proofs.Filter.Compiled
import RecordSearch.Proofs.Store.Operation

/-!
# A search finds the records that a filter is true of

What a filter means for a record is said without any store.  However a store came to keep its
records, the query of a filter finds those among them that the filter is true of.
-/

namespace RecordSearch.Store

open scoped Classical in
/-- A query finds each kept record of which its filter is true, once. Hits have no order. -/
theorem query_keeping_of_compiled {registry : Registry} {contents : List Record} {f : Filter}
    {q : Query} (settled : ∀ r ∈ contents, r.Settled registry) (hasParts : f.HasParts)
    (compiled : Query.ofFilter registry f = .ok q) :
    ∃ hits, query q (keeping registry contents) = (.ok hits, keeping registry contents) ∧
      (hits : Multiset Record) =
        (contents : Multiset Record).filter fun r => f.Holds registry r := by
  refine ⟨_, query_keeping settled q, ?_⟩
  have same : (contents.filter fun r => q.matches' registry.kind (.ofRecord registry r)) =
      contents.filter fun r => decide (f.Holds registry r) := by
    apply List.filter_congr
    intro r _
    rw [Bool.eq_iff_iff, decide_eq_true_iff]
    exact Query.tells_ofFilter hasParts compiled
  rw [same, Multiset.filter_coe]

/-- The records that an index keeps. -/
def kept (registry : Registry) (s : Store) : Except RecordFault (List Record) :=
  s.index.records.mapM (Stored.toRecord registry)

theorem kept_keeping {registry : Registry} {contents : List Record}
    (settled : ∀ r ∈ contents, r.Settled registry) :
    kept registry (keeping registry contents) = .ok contents := by
  rw [kept, keeping_records]
  exact Attempt.mapM_map_eq_ok fun r member => (settled r member).toRecord_ofRecord registry

section Populated

variable {registry : Registry} {s : Store} {contents : List Record}

/-- A run of a store that was just made leaves it with some records. -/
structure Populated (registry : Registry) (s : Store) (contents : List Record) : Prop where
  origin : ∃ start ops, Fresh registry start ∧ (∀ op ∈ ops, op.Proper registry) ∧
    (Operation.trace Operation.run ops start).2 = s
  kept : kept registry s = .ok contents

theorem Populated.eq_keeping (populated : Populated registry s contents) :
    s = keeping registry contents ∧ ∀ r ∈ contents, r.Settled registry := by
  obtain ⟨start, ops, fresh, proper, left⟩ := populated.origin
  obtain ⟨records, reached, settled⟩ := Operation.trace_fresh fresh proper
  have held := populated.kept
  rw [← left, reached, kept_keeping settled] at held
  cases held
  exact ⟨left.symm.trans reached, settled⟩

theorem populated_of_saves (saved : List Record) (built : ∀ r ∈ saved, r.Built registry)
    (keeps : kept registry
      (Operation.trace Operation.run (saved.map .save) (inMemory registry)).2 = .ok contents) :
    Populated registry (Operation.trace Operation.run (saved.map .save) (inMemory registry)).2
      contents :=
  ⟨⟨_, _, .memory, List.forall_mem_map.mpr built, rfl⟩, keeps⟩

/-- A filter is compiled, and its query finds these hits. -/
def Finds (registry : Registry) (s : Store) (f : Filter) (hits : List Record) : Prop :=
  ∃ q, Query.ofFilter registry f = .ok q ∧ query q s = (.ok hits, s)

/-- The hits of a filter are those among some records of which something is true. -/
def Selects (registry : Registry) (s : Store) (contents : List Record) (f : Filter)
    (P : Record → Prop) : Prop :=
  ∃ hits, Finds registry s f hits ∧ ∀ r, r ∈ hits ↔ r ∈ contents ∧ P r

theorem Selects.congr {f : Filter} {P P' : Record → Prop}
    (selects : Selects registry s contents f P) (same : ∀ r ∈ contents, P r ↔ P' r) :
    Selects registry s contents f P' := by
  obtain ⟨hits, finds, among⟩ := selects
  refine ⟨hits, finds, fun r => ?_⟩
  rw [among]
  exact and_congr_right (same r)

/-- A filter that is compiled selects the records that it is true of. -/
theorem Populated.selects {f : Filter} {q : Query} (populated : Populated registry s contents)
    (hasParts : f.HasParts) (compiled : Query.ofFilter registry f = .ok q) :
    Selects registry s contents f (f.Holds registry) := by
  classical
  obtain ⟨rfl, settled⟩ := populated.eq_keeping
  obtain ⟨hits, found, same⟩ := query_keeping_of_compiled settled hasParts compiled
  refine ⟨hits, ⟨q, compiled, found⟩, fun r => ?_⟩
  rw [← Multiset.mem_coe, same, Multiset.mem_filter, Multiset.mem_coe]

theorem Populated.mem_hits_iff {f : Filter} {q : Query} {hits : List Record} {r : Record}
    (populated : Populated registry s contents) (hasParts : f.HasParts)
    (compiled : Query.ofFilter registry f = .ok q) (found : query q s = (.ok hits, s)) :
    r ∈ hits ↔ r ∈ contents ∧ f.Holds registry r := by
  obtain ⟨hits', ⟨q', compiled', found'⟩, same⟩ := populated.selects hasParts compiled
  obtain rfl := Except.ok.inj (compiled.symm.trans compiled')
  obtain rfl := Except.ok.inj (congrArg Prod.fst (found.symm.trans found'))
  exact same r

end Populated

open scoped Classical in
/-- Filters have a meaning for each record alone that agrees with their connectives.  After any run
of a store that was just made, the query of a filter finds the kept records of that meaning, each
one once. -/
theorem query_finds_meaning (registry : Registry) :
    (∀ r, Filter.IsMeaning r (Filter.Holds registry r)) ∧
      ∀ (s : Store) (ops : List Operation) (f : Filter) (q : Query),
        Fresh registry s → (∀ op ∈ ops, op.Proper registry) → f.HasParts →
        Query.ofFilter registry f = .ok q →
        ∃ contents hits,
          kept registry (Operation.trace Operation.run ops s).2 = .ok contents ∧
          query q (Operation.trace Operation.run ops s).2 =
            (.ok hits, (Operation.trace Operation.run ops s).2) ∧
          (hits : Multiset Record) =
            (contents : Multiset Record).filter fun r => f.Holds registry r := by
  refine ⟨Filter.isMeaning_holds registry, fun s ops f q fresh proper hasParts compiled => ?_⟩
  have empty : ∀ r ∈ ([] : List Record), r.Settled registry := by simp
  obtain ⟨contents, reached, settled⟩ := Operation.trace_keeping empty proper
  obtain ⟨hits, found, same⟩ := query_keeping_of_compiled settled hasParts compiled
  rw [fresh.eq_keeping, reached]
  exact ⟨contents, hits, kept_keeping settled, found, same⟩

/-- A record without a country is found by the negation of a test for one. -/
theorem query_finds_meaning_lacking :
    let f : Filter := .not (.test "countryCode" (.compare .eq (.text "US")))
    let s := (Operation.trace Operation.run
      [.save { id := "a", countryCode := some "US" }, .save { id := "b" }, .save { id := "c" },
        .delete "c"] (inMemory Registry.standard)).2
    ∃ q hits, Query.ofFilter Registry.standard f = .ok q ∧ query q s = (.ok hits, s) ∧
      (hits : Multiset Record) = {{ id := "b" }} := by
  intro f s
  have proper : ∀ op ∈ ([.save { id := "a", countryCode := some "US" }, .save { id := "b" },
      .save { id := "c" }, .delete "c"] : List Operation), op.Proper Registry.standard := by
    have located : Record.Built Registry.standard { id := "a", countryCode := some "US" } :=
      ⟨"a", [.text "countryCode" "US"], by decide⟩
    have second : Record.Built Registry.standard { id := "b" } := ⟨"b", [], by decide⟩
    have third : Record.Built Registry.standard { id := "c" } := ⟨"c", [], by decide⟩
    simp [Operation.Proper, located, second, third]
  have hasParts : f.HasParts := .not (.test _ _)
  obtain ⟨contents, hits, held, found, same⟩ :=
    (query_finds_meaning Registry.standard).2 _ _ f _ .memory proper hasParts rfl
  have two : contents = [{ id := "a", countryCode := some "US" }, { id := "b" }] :=
    Except.ok.inj (held.symm.trans (by rfl))
  refine ⟨_, hits, rfl, found, ?_⟩
  have first : ¬ f.Holds Registry.standard { id := "a", countryCode := some "US" } := fun holds =>
    ((Filter.isMeaning_holds _ _).not _).mp holds (show Finding.Equals _ (.keyword "US") from rfl)
  have second : f.Holds Registry.standard { id := "b" } := by
    rw [(Filter.isMeaning_holds _ _).not, (Filter.isMeaning_holds _ _).lacking _ _ rfl]
    simp
  rw [same, two]
  simp [first, second]

end RecordSearch.Store
