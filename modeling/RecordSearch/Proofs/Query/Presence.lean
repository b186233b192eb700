import RecordSearch.Proofs.Store.Search
import RecordSearch.Proofs.Text.Words

/-!
# Tests for a value

An index is asked for any of its terms under an attribute, and not for the value.  So a text whose
words are all left out is nowhere to be found, although it is kept, nor is a keyword that is too long
to be a term.  And since the pattern for any term stays within a line, a keyword of several lines is
not found either.
-/

namespace RecordSearch

open RecordSearch.Text
open RecordSearch.Time (Instant)

variable {registry : Registry} {r : Record} {a : Attribute} {v : String}

namespace Finding

theorem present_prose_iff :
    (prose (Kind.text.terms v)).Present ↔ (Analysis.of v.toList).tokens ≠ [] := by
  constructor
  · rintro ⟨term, member, -⟩ none
    rw [Kind.terms, none] at member
    cases member
  · intro filled
    obtain ⟨t, member⟩ := List.exists_mem_of_ne_nil _ filled
    exact ⟨(t.position, t.word), List.mem_map_of_mem member, lineFeed_not_mem_word member⟩

end Finding

namespace Record

theorem finding_of_date {d : Instant} (held : r.value a = some (.date d)) :
    r.finding registry a = .moment d.seconds := by
  have kind : registry.kind a = .date := (registry.kind_date a).mpr (isDate_of_value_date held)
  simp only [finding, kind, held]

theorem finding_of_prose (kind : registry.kind a = .text) (held : r.value a = some (.text v)) :
    r.finding registry a = .prose (Kind.text.terms v) := by
  simp only [finding, kind, text?, held, Option.elim_some]

theorem finding_of_keyword (kind : registry.kind a = .keyword)
    (held : r.value a = some (.text v)) (short : v.utf8ByteSize ≤ longestKeyword) :
    r.finding registry a = .keyword v := by
  simp only [finding, kind, text?, held, if_pos short]

theorem finding_of_long_keyword (kind : registry.kind a = .keyword)
    (held : r.value a = some (.text v)) (long : ¬ v.utf8ByteSize ≤ longestKeyword) :
    r.finding registry a = .nothing := by
  simp only [finding, kind, text?, held, if_neg long]

theorem present_keyword_iff (kind : registry.kind a = .keyword)
    (held : r.value a = some (.text v)) :
    (r.finding registry a).Present ↔ '\n' ∉ v.toList ∧ v.utf8ByteSize ≤ longestKeyword := by
  by_cases short : v.utf8ByteSize ≤ longestKeyword
  · rw [finding_of_keyword kind held short, and_iff_left short]
    rfl
  · rw [finding_of_long_keyword kind held short]
    exact iff_of_false not_false fun present => short present.2

theorem not_present_of_none (lacking : r.value a = none) :
    ¬ (r.finding registry a).Present :=
  (blank_finding lacking).absent

end Record

namespace Filter

theorem holds_isNull_iff :
    (test a.name .isNull).Holds registry r ↔ ¬ (r.finding registry a).Present := by
  rw [holds_test_iff]
  rfl

theorem holds_not_isNull_iff :
    (not (test a.name .isNull)).Holds registry r ↔ (r.finding registry a).Present := by
  rw [Holds, holds_isNull_iff, not_not]

end Filter

namespace Store

variable {s : Store} {contents : List Record}

theorem Populated.selects_isNull (populated : Populated registry s contents) (a : Attribute) :
    Selects registry s contents (.test a.name .isNull)
      fun r => ¬ (r.finding registry a).Present := by
  have compiled : Query.ofFilter registry (.test a.name .isNull) =
      .ok (Query.holding (registry.kind a) a).negate := by
    rw [Query.ofFilter_test]
    rfl
  exact (populated.selects (.test _ _) compiled).congr fun r _ => Filter.holds_isNull_iff

theorem Populated.selects_not_isNull (populated : Populated registry s contents) (a : Attribute) :
    Selects registry s contents (.not (.test a.name .isNull))
      fun r => (r.finding registry a).Present := by
  have compiled : Query.ofFilter registry (.not (.test a.name .isNull)) =
      .ok (Query.holding (registry.kind a) a).negate.negate := by
    rw [Query.ofFilter, Query.ofFilter_test]
    rfl
  exact (populated.selects (.not (.test _ _)) compiled).congr fun r _ =>
    Filter.holds_not_isNull_iff

/-- The tests for a value and for none part the records of a store.  Without a value, a record is
never found to have one.  With a date it always is, with a text exactly if some word of it is kept,
and with a keyword exactly if that is one line and not too long. -/
theorem selects_presence (populated : Populated registry s contents) (a : Attribute) :
    ∃ present absent, Finds registry s (.not (.test a.name .isNull)) present ∧
      Finds registry s (.test a.name .isNull) absent ∧
      ∀ r ∈ contents, (r ∈ absent ↔ r ∉ present) ∧ (r ∈ present → (r.value a).isSome) ∧
        (∀ d, r.value a = some (.date d) → r ∈ present) ∧
        (∀ v, r.value a = some (.text v) → registry.kind a = .text →
          (r ∈ present ↔ (Analysis.of v.toList).tokens ≠ [])) ∧
        ∀ v, r.value a = some (.text v) → registry.kind a = .keyword →
          (r ∈ present ↔ '\n' ∉ v.toList ∧ v.utf8ByteSize ≤ longestKeyword) := by
  obtain ⟨present, finds, among⟩ := populated.selects_not_isNull a
  obtain ⟨absent, finds', among'⟩ := populated.selects_isNull a
  refine ⟨present, absent, finds, finds', fun r kept => ?_⟩
  have present_iff : r ∈ present ↔ (r.finding registry a).Present := by
    rw [among, and_iff_right kept]
  refine ⟨?_, ?_, ?_, ?_, ?_⟩
  · rw [among', and_iff_right kept, present_iff]
  · intro hit
    by_contra lacking
    rw [Option.not_isSome_iff_eq_none] at lacking
    exact Record.not_present_of_none lacking (present_iff.mp hit)
  · intro d held
    rw [present_iff, Record.finding_of_date held]
    trivial
  · intro v held kind
    rw [present_iff, Record.finding_of_prose kind held, Finding.present_prose_iff]
  · intro v held kind
    rw [present_iff, Record.present_keyword_iff kind held]

theorem selects_presence_titled :
    ∃ present absent,
      Finds Registry.standard
        (Operation.trace Operation.run [.save { id := "a", title := some "Über" },
          .save { id := "b" }] (inMemory Registry.standard)).2
        (.not (.test "title" .isNull)) present ∧
      Finds Registry.standard
        (Operation.trace Operation.run [.save { id := "a", title := some "Über" },
          .save { id := "b" }] (inMemory Registry.standard)).2
        (.test "title" .isNull) absent ∧
      { id := "a", title := some "Über" } ∈ present ∧ { id := "b" } ∈ absent := by
  have first : Record.Built Registry.standard { id := "a", title := some "Über" } :=
    ⟨"a", [.text "title" "Über"], by decide⟩
  have second : Record.Built Registry.standard { id := "b" } := ⟨"b", [], by decide⟩
  have populated := populated_of_saves [{ id := "a", title := some "Über" }, { id := "b" }]
    (List.forall_mem_cons.mpr ⟨first, List.forall_mem_singleton.mpr second⟩) (by rfl)
  obtain ⟨present, absent, finds, finds', each⟩ := selects_presence populated .title
  refine ⟨present, absent, finds, finds', ?_, ?_⟩
  · obtain ⟨-, -, -, titled, -⟩ := each _ List.mem_cons_self
    exact (titled "Über" rfl rfl).mpr (by decide +kernel)
  · obtain ⟨parted, held, -⟩ := each _ (List.mem_cons_of_mem _ List.mem_cons_self)
    exact parted.mpr fun hit => absurd (held hit) (by decide)

/-- A title without words is kept and does not show. -/
theorem selects_presence_misses :
    Finds Registry.standard
        (Operation.trace Operation.run [.save { id := "a", title := some "!!!" }]
          (inMemory Registry.standard)).2
        (.not (.test "title" .isNull)) [] ∧
      kept Registry.standard
        (Operation.trace Operation.run [.save { id := "a", title := some "!!!" }]
          (inMemory Registry.standard)).2 = .ok [{ id := "a", title := some "!!!" }] := by
  exact ⟨⟨_, rfl, rfl⟩, rfl⟩

end Store

end RecordSearch
