import RecordSearch.Proofs.Filter.Typing
import RecordSearch.Proofs.Query.Presence
import RecordSearch.Proofs.Text.Order

/-!
# Tests in order

Equality, the four comparisons, ranges and periods look at an index in different ways: one asks for
a term, the others for what lies between two ends, with the ends or without them.  Nevertheless they
tell of one linear order, that of the bytes of keywords and that of the seconds of dates.
-/

namespace RecordSearch

open RecordSearch.Attempt RecordSearch.Text
open RecordSearch.Time (Instant)

section Order

variable {α : Type} [LinearOrder α] {x y : α}

def Comparison.Relates : Comparison → α → α → Prop
  | eq, x, y => x = y
  | notEq, x, y => x ≠ y
  | lt, x, y => x < y
  | le, x, y => x ≤ y
  | gt, x, y => y < x
  | ge, x, y => y ≤ x

theorem Comparison.relates_flipped (op : Comparison) (x y : α) :
    op.flipped.Relates x y ↔ op.Relates y x := by
  cases op with
  | eq => exact eq_comm
  | notEq => exact ne_comm
  | _ => exact Iff.rfl

theorem Comparison.existsUnique_relates (x y : α) :
    ∃! op : Comparison, op ∈ [lt, eq, gt] ∧ op.Relates x y := by
  have only (op : Comparison) (lies : ∀ op' ∈ [lt, eq, gt], op'.Relates x y ↔ op' = op)
      (member : op ∈ [lt, eq, gt]) : ∃! op : Comparison, op ∈ [lt, eq, gt] ∧ op.Relates x y :=
    ⟨op, ⟨member, (lies op member).mpr rfl⟩, fun op' found => (lies op' found.1).mp found.2⟩
  rcases lt_trichotomy x y with before | same | behind
  · exact only lt (by simp [Relates, before, before.ne, before.le]) (by simp)
  · exact only eq (by simp [Relates, same]) (by simp)
  · exact only gt (by simp [Relates, behind, behind.ne', behind.le]) (by simp)

end Order

@[simp]
theorem Literal.asInstant?_date (t : Instant) : (date t).asInstant? = some t := rfl

/-- A test that sets an attribute in order with some values. -/
def Predicate.Orders : Predicate → Prop
  | compare .notEq _ => False
  | compare _ _ | between _ _ | before _ | after _ | during _ _ => True
  | like _ _ | oneOf _ | isNull => False

/-- The tests that are true of one value of a kind set it in order with all values. -/
structure Ordered (kind : Kind) (true' : Predicate → Prop) : Prop where
  one (v : Literal) (suits : v.Suits kind) :
    ∃! op : Comparison, op ∈ [.lt, .eq, .gt] ∧ true' (.compare op v)
  le (v : Literal) (suits : v.Suits kind) :
    true' (.compare .le v) ↔ true' (.compare .lt v) ∨ true' (.compare .eq v)
  ge (v : Literal) (suits : v.Suits kind) :
    true' (.compare .ge v) ↔ true' (.compare .gt v) ∨ true' (.compare .eq v)
  between (l u : Literal) (suits : l.Suits kind) (suits' : u.Suits kind) :
    true' (.between l u) ↔ true' (.compare .ge l) ∧ true' (.compare .le u)
  before (date : kind = .date) (v : Literal) (t : Instant) (reads : v.asInstant? = some t) :
    true' (.before t) ↔ true' (.compare .lt v)
  after (date : kind = .date) (v : Literal) (t : Instant) (reads : v.asInstant? = some t) :
    true' (.after t) ↔ true' (.compare .gt v)
  during (date : kind = .date) (v w : Literal) (start stop : Instant)
    (reads : v.asInstant? = some start) (reads' : w.asInstant? = some stop) :
    true' (.during start stop) ↔ true' (.compare .gt v) ∧ true' (.compare .lt w)

namespace Finding

variable {kind : Kind} {op : Comparison} {v : Literal} {value : String} {t : Instant}
  {seconds : Int}

theorem compares_keyword_iff :
    (Predicate.compare op v).Holds (keyword value) ↔ op.Relates (codes value) (codes v.asText) := by
  cases op <;>
    simp [Predicate.Holds, Lies, Equals, Bound.Says, Comparison.Relates, ← Bool.not_eq_true,
      Utf8.lt_iff, codes_injective.eq_iff]

theorem compares_moment_iff (reads : v.asInstant? = some t) :
    (Predicate.compare op v).Holds (moment seconds) ↔ op.Relates seconds t.seconds := by
  cases op <;> simp [Predicate.Holds, Lies, Equals, Bound.Says, Comparison.Relates, reads]

theorem ordered_keyword (value : String) : Ordered .keyword fun p => p.Holds (keyword value) where
  one v _ := by
    simp only [compares_keyword_iff]
    exact Comparison.existsUnique_relates _ _
  le v _ := by
    simp only [compares_keyword_iff]
    exact le_iff_lt_or_eq
  ge v _ := by
    simp only [compares_keyword_iff]
    exact le_iff_lt_or_eq.trans (or_congr_right eq_comm)
  between l u _ _ := by
    simp [Predicate.Holds, Lies, Bound.Says]
  before := nofun
  after := nofun
  during := nofun

theorem ordered_moment (seconds : Int) : Ordered .date fun p => p.Holds (moment seconds) where
  one v suits := by
    obtain ⟨t, reads⟩ := Query.isMoment_iff.mp (suits rfl)
    simp only [compares_moment_iff reads]
    exact Comparison.existsUnique_relates _ _
  le v suits := by
    obtain ⟨t, reads⟩ := Query.isMoment_iff.mp (suits rfl)
    simp only [compares_moment_iff reads]
    exact le_iff_lt_or_eq
  ge v suits := by
    obtain ⟨t, reads⟩ := Query.isMoment_iff.mp (suits rfl)
    simp only [compares_moment_iff reads]
    exact le_iff_lt_or_eq.trans (or_congr_right eq_comm)
  between l u _ _ := by
    simp [Predicate.Holds, Lies, Bound.Says]
  before _ v t reads := by
    simp [Predicate.Holds, Lies, Bound.Says, reads]
  after _ v t reads := by
    simp [Predicate.Holds, Lies, Bound.Says, reads]
  during _ v w start stop reads reads' := by
    simp [Predicate.Holds, Lies, Bound.Says, reads, reads']

end Finding

variable {registry : Registry} {a : Attribute} {p : Predicate}

/-- A test in order has no pattern, which alone could be too large. -/
theorem Predicate.Orders.succeeds_iff (orders : p.Orders) :
    Succeeds (Query.ofFilter registry (.test a.name p)) ↔ p.Suits (registry.kind a) := by
  have fits : p.Fits (registry.kind a) := by
    cases p with
    | like => exact orders.elim
    | compare | oneOf | between | isNull | before | after | during => trivial
  rw [Query.ofFilter_test, Query.succeeds_ofPredicate_iff, and_iff_left fits]

namespace Record

variable {r : Record}

theorem kind_eq_keyword {text : String} (kind : registry.kind a ≠ .text)
    (held : r.value a = some (.text text)) : registry.kind a = .keyword := by
  cases same : registry.kind a with
  | text => exact absurd same kind
  | keyword => rfl
  | date =>
      have isDate := (registry.kind_date a).mp same
      rw [not_isDate_of_value_text held] at isDate
      cases isDate

theorem ordered {value : Value} (kind : registry.kind a ≠ .text) (held : r.value a = some value)
    (short : ∀ text, value = .text text → text.utf8ByteSize ≤ longestKeyword) :
    Ordered (registry.kind a) fun p => p.Holds (r.finding registry a) := by
  cases value with
  | text value =>
      rw [finding_of_keyword (kind_eq_keyword kind held) held (short value rfl),
        kind_eq_keyword kind held]
      exact Finding.ordered_keyword value
  | date d =>
      rw [finding_of_date held, (registry.kind_date a).mpr (isDate_of_value_date held)]
      exact Finding.ordered_moment d.seconds

theorem not_holds_of_none (lacking : r.value a = none) (orders : p.Orders) :
    ¬ p.Holds (r.finding registry a) := by
  rw [(blank_finding lacking).holds_iff]
  rintro (rfl | ⟨v, rfl⟩)
  · exact orders
  · exact orders

end Record

namespace Store

variable {s : Store} {contents : List Record}

/-- The tests of an attribute that is not prose put the records of a store in order by it, whatever
is compared with.  Records that lack the attribute are left out by all of them. -/
theorem selects_order (populated : Populated registry s contents) (a : Attribute)
    (kind : registry.kind a ≠ .text) :
    ∃ hits : Predicate → List Record,
      (∀ p, Succeeds (Query.ofFilter registry (.test a.name p)) →
        Finds registry s (.test a.name p) (hits p)) ∧
      (∀ p, p.Orders →
        (Succeeds (Query.ofFilter registry (.test a.name p)) ↔ p.Suits (registry.kind a))) ∧
      ∀ r ∈ contents,
        (r.value a = none → ∀ p, p.Orders → r ∉ hits p) ∧
        (∀ value, r.value a = some value →
          (∀ text, value = .text text → text.utf8ByteSize ≤ longestKeyword) →
          Ordered (registry.kind a) (r ∈ hits ·)) ∧
        ∀ text, r.value a = some (.text text) → text.utf8ByteSize ≤ longestKeyword →
          ∀ v, (r ∈ hits (.compare .eq v) ↔ text = v.asText) ∧
            (r ∈ hits (.compare .lt v) ↔ Utf8.lt text v.asText = true) := by
  classical
  have each (p : Predicate) : ∃ hits, (Succeeds (Query.ofFilter registry (.test a.name p)) →
      Finds registry s (.test a.name p) hits) ∧
        ∀ r, r ∈ hits ↔ r ∈ contents ∧ p.Holds (r.finding registry a) := by
    by_cases compiles : Succeeds (Query.ofFilter registry (.test a.name p))
    · obtain ⟨q, compiled⟩ := compiles
      obtain ⟨hits, finds, among⟩ := populated.selects (.test _ _) compiled
      exact ⟨hits, fun _ => finds, fun r =>
        (among r).trans (and_congr_right fun _ => Filter.holds_test_iff)⟩
    · refine ⟨contents.filter fun r => p.Holds (r.finding registry a),
        fun compiled => absurd compiled compiles, fun r => ?_⟩
      rw [List.mem_filter, decide_eq_true_iff]
  choose hits finds among using each
  refine ⟨hits, finds, fun p orders => orders.succeeds_iff, fun r kept => ?_⟩
  simp only [among, kept, true_and]
  refine ⟨fun lacking p => Record.not_holds_of_none lacking,
    fun value held short => Record.ordered kind held short, fun text held short v => ?_⟩
  rw [Record.finding_of_keyword (Record.kind_eq_keyword kind held) held short]
  refine ⟨Iff.rfl, ?_⟩
  rw [Finding.compares_keyword_iff, Utf8.lt_iff]
  rfl

/-- A country lies in the range of itself, and in none whose ends are the wrong way round. -/
theorem selects_order_countries :
    ∃ hits : Predicate → List Record,
      (∀ p ∈ [Predicate.between (.text "DE") (.text "DE"), .between (.text "FR") (.text "AT"),
          .compare .lt (.text "FR")],
        Finds Registry.standard
          (Operation.trace Operation.run [.save { id := "a", countryCode := some "DE" },
            .save { id := "b" }] (inMemory Registry.standard)).2
          (.test "countryCode" p) (hits p)) ∧
      { id := "a", countryCode := some "DE" } ∈ hits (.between (.text "DE") (.text "DE")) ∧
      { id := "a", countryCode := some "DE" } ∉ hits (.between (.text "FR") (.text "AT")) ∧
      { id := "a", countryCode := some "DE" } ∈ hits (.compare .lt (.text "FR")) ∧
      { id := "b" } ∉ hits (.compare .lt (.text "FR")) := by
  have first : Record.Built Registry.standard { id := "a", countryCode := some "DE" } :=
    ⟨"a", [.text "countryCode" "DE"], by decide⟩
  have second : Record.Built Registry.standard { id := "b" } := ⟨"b", [], by decide⟩
  have populated := populated_of_saves
    [{ id := "a", countryCode := some "DE" }, { id := "b" }]
    (List.forall_mem_cons.mpr ⟨first, List.forall_mem_singleton.mpr second⟩) (by rfl)
  obtain ⟨hits, finds, accepts, each⟩ := selects_order populated .countryCode (by decide)
  obtain ⟨-, placed, bytes⟩ := each _ List.mem_cons_self
  obtain ⟨lacks, -⟩ := each _ (List.mem_cons_of_mem _ List.mem_cons_self)
  have suits (text : String) : (Literal.text text).Suits .keyword := nofun
  have ordered := placed (.text "DE") rfl fun text same => by
    cases same
    decide
  have same := bytes "DE" rfl (by decide) (.text "DE")
  have smaller := bytes "DE" rfl (by decide) (.text "FR")
  refine ⟨hits, fun p member => finds p ?_, ?_, ?_, ?_, ?_⟩
  · simp only [List.mem_cons, List.not_mem_nil, or_false] at member
    rcases member with rfl | rfl | rfl
    · exact (accepts (.between _ _) trivial).mpr ⟨by decide, suits _, suits _⟩
    · exact (accepts (.between _ _) trivial).mpr ⟨by decide, suits _, suits _⟩
    · exact (accepts (.compare .lt _) trivial).mpr ⟨by decide, suits _⟩
  · have equal := same.1.mpr rfl
    exact (ordered.between _ _ (suits _) (suits _)).mpr
      ⟨(ordered.ge _ (suits _)).mpr (.inr equal), (ordered.le _ (suits _)).mpr (.inr equal)⟩
  · intro within
    obtain ⟨behind, -⟩ := (ordered.between _ _ (suits _) (suits _)).mp within
    rcases (ordered.ge _ (suits _)).mp behind with greater | equal
    · exact absurd ((ordered.one _ (suits _)).unique ⟨by decide, greater⟩
        ⟨by decide, smaller.2.mpr (by decide)⟩) (by decide)
    · exact absurd (smaller.1.mp equal) (by decide)
  · exact smaller.2.mpr (by decide)
  · exact lacks rfl _ trivial

end Store

end RecordSearch
