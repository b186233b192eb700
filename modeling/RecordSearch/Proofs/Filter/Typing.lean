import RecordSearch.Proofs.Filter.Compiled
import RecordSearch.Proofs.Filter.Made
import RecordSearch.Proofs.Service.Preparation

/-!
# Well-typed filters

Whether a test makes sense of an attribute is told by the kind of the attribute and by the values of
the test.  A filter has a query exactly if each of its tests makes sense, wherever it stands, unless
a pattern is too large for an index.
-/

namespace RecordSearch

open RecordSearch.Attempt RecordSearch.Text
open RecordSearch.Time (Instant)

variable {kind : Kind} {a : Attribute} {registry : Registry} {name : String}

section Typing

/-- A date, or a text that reads as one. -/
def Literal.IsMoment : Literal → Prop
  | text value => ∃ at', Time.instant? value = some at'
  | number _ => False
  | date _ => True

/-- A value that makes sense for an attribute of a kind. -/
def Literal.Suits (kind : Kind) (v : Literal) : Prop := kind = .date → v.IsMoment

/-- A test that makes sense of an attribute of a kind. -/
def Predicate.Suits (kind : Kind) : Predicate → Prop
  | compare .eq v | compare .notEq v => v.Suits kind
  | compare .lt v | compare .le v | compare .gt v | compare .ge v => kind ≠ .text ∧ v.Suits kind
  | like _ _ => kind ≠ .date
  | oneOf values => ∀ v ∈ values, v.Suits kind
  | between lower upper => kind ≠ .text ∧ lower.Suits kind ∧ upper.Suits kind
  | isNull => True
  | before _ | after _ | during _ _ => kind = .date

/-- The regular expressions of a LIKE pattern are not too large.  A cluster that is one plain word
needs none. -/
def Predicate.Fits (kind : Kind) : Predicate → Prop
  | like text ignoreCase =>
      match kind with
      | .text => ∀ c ∈ Query.clustersOf text, c.plain? = none → c.pattern.isTooLarge = false
      | .keyword => (Pattern.ofLike ignoreCase text).isTooLarge = false
      | .date => True
  | _ => True

end Typing

namespace Filter

variable {p : Predicate} {f : Filter} {fs : List Filter}

inductive HasTest (name : String) (p : Predicate) : Filter → Prop where
  | here : HasTest name p (.test name p)
  | all {fs : List Filter} {f : Filter} (member : f ∈ fs) (within : HasTest name p f) :
      HasTest name p (.all fs)
  | any {fs : List Filter} {f : Filter} (member : f ∈ fs) (within : HasTest name p f) :
      HasTest name p (.any fs)
  | not {f : Filter} (within : HasTest name p f) : HasTest name p (.not f)

theorem HasTest.asks (within : f.HasTest name p) : f.Asks name := by
  induction within with
  | here => exact .test p
  | all member _ inductionHypothesis => exact .all member inductionHypothesis
  | any member _ inductionHypothesis => exact .any member inductionHypothesis
  | not _ inductionHypothesis => exact .not inductionHypothesis

section Tests

variable {P : String → Predicate → Prop}

theorem forall_hasTest_all_iff :
    (∀ name p, (all fs).HasTest name p → P name p) ↔
      ∀ f ∈ fs, ∀ name p, f.HasTest name p → P name p := by
  constructor
  · exact fun each f member name p within => each name p (.all member within)
  · rintro each name p (- | ⟨member, within⟩)
    exact each _ member name p within

theorem forall_hasTest_any_iff :
    (∀ name p, (any fs).HasTest name p → P name p) ↔
      ∀ f ∈ fs, ∀ name p, f.HasTest name p → P name p := by
  constructor
  · exact fun each f member name p within => each name p (.any member within)
  · rintro each name p (- | - | ⟨member, within⟩)
    exact each _ member name p within

theorem forall_hasTest_not_iff :
    (∀ name p, (not f).HasTest name p → P name p) ↔ ∀ name p, f.HasTest name p → P name p := by
  constructor
  · exact fun each name p within => each name p (.not within)
  · rintro each name p (- | - | - | within)
    exact each name p within

theorem forall_hasTest_test_iff {p : Predicate} :
    (∀ name' p', (test name p).HasTest name' p' → P name' p') ↔ P name p := by
  constructor
  · exact fun each => each name p .here
  · rintro holds name' p' ⟨⟩
    exact holds

end Tests

/-- Every test makes sense of its attribute. -/
def WellTyped (registry : Registry) (f : Filter) : Prop :=
  ∀ a p, f.HasTest a.name p → p.Suits (registry.kind a)

/-- No regular expression of a pattern is too large. -/
def Fits (registry : Registry) (f : Filter) : Prop :=
  ∀ a p, f.HasTest a.name p → p.Fits (registry.kind a)

end Filter

namespace Query

variable {v : Literal} {lower upper : Bound Literal} {text : String}

theorem isMoment_iff : v.IsMoment ↔ ∃ at', v.asInstant? = some at' := by
  cases v <;> simp [Literal.IsMoment, Literal.asInstant?]

theorem succeeds_ofValue_iff : Succeeds (ofValue kind a v) ↔ v.Suits kind := by
  cases kind with
  | text | keyword => simp [ofValue, Literal.Suits]
  | date =>
      simp only [ofValue, Literal.Suits, forall_const, isMoment_iff]
      cases v.asInstant? <;> simp

theorem succeeds_boundSeconds_iff {bound : Bound Literal} :
    Succeeds (boundSeconds a bound) ↔ bound.Says Literal.IsMoment Literal.IsMoment := by
  cases bound with
  | unbounded => exact iff_of_true ⟨_, rfl⟩ trivial
  | included v | excluded v =>
      simp only [boundSeconds, Bound.Says, isMoment_iff]
      cases v.asInstant? <;> simp

theorem succeeds_ofRange_iff :
    Succeeds (ofRange kind a lower upper) ↔ kind ≠ .text ∧
      lower.Says (Literal.Suits kind) (Literal.Suits kind) ∧
        upper.Says (Literal.Suits kind) (Literal.Suits kind) := by
  have free {bound : Bound Literal} (other : kind ≠ .date) :
      bound.Says (Literal.Suits kind) (Literal.Suits kind) := by
    cases bound with
    | unbounded => trivial
    | included v | excluded v => exact fun same => absurd same other
  cases kind with
  | text => simp [ofRange]
  | keyword => simp [ofRange, free]
  | date =>
      have suits : Literal.Suits .date = Literal.IsMoment := by
        funext v
        exact propext (forall_prop_of_true rfl)
      rw [suits, ← succeeds_boundSeconds_iff (a := a), ← succeeds_boundSeconds_iff (a := a)]
      constructor
      · rintro ⟨q, compiled⟩
        obtain ⟨lower', first, later⟩ := bind_eq_ok compiled
        obtain ⟨upper', second, -⟩ := bind_eq_ok later
        exact ⟨by decide, ⟨lower', first⟩, upper', second⟩
      · rintro ⟨-, ⟨lower', first⟩, upper', second⟩
        rw [ofRange, first, second]
        exact ⟨_, rfl⟩

theorem succeeds_ofPeriod_iff {lower upper : Bound Instant} :
    Succeeds (ofPeriod kind a lower upper) ↔ kind = .date := by
  cases kind <;> simp [ofPeriod]

theorem succeeds_ofPattern_iff {p : Pattern} {fault : CompileFault} :
    Succeeds (ofPattern a p fault) ↔ p.isTooLarge = false := by
  cases large : p.isTooLarge <;> simp [ofPattern, large]

theorem succeeds_cluster_iff {c : Cluster} :
    Succeeds (c.query a) ↔ (c.plain? = none → c.pattern.isTooLarge = false) := by
  cases plain : c.plain? with
  | some t => simp [Cluster.query, plain]
  | none => simp [Cluster.query, plain, succeeds_ofPattern_iff]

/-- Plain words need no pattern; else each cluster is asked for on its own. -/
theorem succeeds_ofProsePattern_iff :
    Succeeds (ofProsePattern a text) ↔
      ∀ c ∈ clustersOf text, c.plain? = none → c.pattern.isTooLarge = false := by
  simp only [ofProsePattern]
  rw [← clustersOf]
  cases plain : (clustersOf text).mapM Cluster.plain? with
  | some words =>
      have each := isSome_plain?_of_mapM plain
      refine iff_of_true (succeeds_ok _) fun c member none => ?_
      have found := each c member
      rw [none] at found
      cases found
  | none =>
      have each : Succeeds ((clustersOf text).mapM (Cluster.query a)) ↔
          ∀ c ∈ clustersOf text, c.plain? = none → c.pattern.isTooLarge = false := by
        rw [succeeds_mapM_iff]
        simp only [succeeds_cluster_iff]
      rw [← each]
      cases (clustersOf text).mapM (Cluster.query a) with
      | error fault => simp
      | ok queries => rcases queries with _ | ⟨q, _ | _⟩ <;> simp

theorem succeeds_ofLike_iff {ignoreCase : Bool} :
    Succeeds (ofLike kind a text ignoreCase) ↔
      (Predicate.like text ignoreCase).Suits kind ∧ (Predicate.like text ignoreCase).Fits kind := by
  cases kind with
  | text => simp [ofLike, succeeds_ofProsePattern_iff, Predicate.Suits, Predicate.Fits]
  | keyword => simp [ofLike, succeeds_ofPattern_iff, Predicate.Suits, Predicate.Fits]
  | date => simp [ofLike, Predicate.Suits]

theorem succeeds_ofPredicate_iff {p : Predicate} :
    Succeeds (ofPredicate kind a p) ↔ p.Suits kind ∧ p.Fits kind := by
  cases p with
  | compare op v =>
      cases op with
      | eq => simp [ofPredicate, succeeds_ofValue_iff, Predicate.Suits, Predicate.Fits]
      | notEq =>
          simp [ofPredicate, succeeds_map_iff, succeeds_ofValue_iff, Predicate.Suits,
            Predicate.Fits]
      | lt | le | gt | ge =>
          simp [ofPredicate, succeeds_ofRange_iff, Predicate.Suits, Predicate.Fits, Bound.Says]
  | like text ignoreCase => exact succeeds_ofLike_iff
  | oneOf values =>
      simp [ofPredicate, succeeds_map_iff, succeeds_mapM_iff, succeeds_ofValue_iff,
        Predicate.Suits, Predicate.Fits]
  | between lower upper =>
      simp [ofPredicate, succeeds_ofRange_iff, Predicate.Suits, Predicate.Fits, Bound.Says]
  | isNull => simp [ofPredicate, Predicate.Suits, Predicate.Fits]
  | before at' | after at' | during start stop =>
      simp [ofPredicate, succeeds_ofPeriod_iff, Predicate.Suits, Predicate.Fits]

theorem succeeds_ofFilter_iff {f : Filter} :
    Succeeds (ofFilter registry f) ↔
      ∀ name p, f.HasTest name p → Succeeds (ofTest registry name p) := by
  induction f using Filter.inductionOn with
  | everything | nothing => exact iff_of_true ⟨_, rfl⟩ fun _ _ => nofun
  | all fs inductionHypothesis | any fs inductionHypothesis =>
      simp only [ofFilter, ofFilters_eq_mapM, succeeds_map_iff, succeeds_mapM_iff,
        Filter.forall_hasTest_all_iff, Filter.forall_hasTest_any_iff]
      exact forall₂_congr inductionHypothesis
  | not f inductionHypothesis =>
      rw [ofFilter, succeeds_map_iff, inductionHypothesis, Filter.forall_hasTest_not_iff]
  | test name p => rw [ofFilter, Filter.forall_hasTest_test_iff]

theorem succeeds_ofTest_iff {p : Predicate} :
    Succeeds (ofTest registry a.name p) ↔
      p.Suits (registry.kind a) ∧ p.Fits (registry.kind a) := by
  rw [ofTest, a.ofName?_name]
  exact succeeds_ofPredicate_iff

end Query

theorem Filter.succeeds_iff_wellTyped {f : Filter}
    (known : ∀ name, f.Asks name → registry.Offers name) :
    Succeeds (Query.ofFilter registry f) ↔ f.WellTyped registry ∧ f.Fits registry := by
  rw [Query.succeeds_ofFilter_iff]
  constructor
  · intro each
    have both (a : Attribute) (p : Predicate) (within : f.HasTest a.name p) :=
      Query.succeeds_ofTest_iff.mp (each a.name p within)
    exact ⟨fun a p within => (both a p within).1, fun a p within => (both a p within).2⟩
  · rintro ⟨wellTyped, fits⟩ name p within
    obtain ⟨a, rfl, -⟩ := known name within.asks
    exact Query.succeeds_ofTest_iff.mpr ⟨wellTyped a p within, fits a p within⟩

namespace PreparedQuery

variable {q : String} {d : Dialect} {f : Filter}

/-- A query whose attributes may all be queried is prepared exactly if each of its tests makes sense
for the kind of its attribute, provided that no pattern is too large.  One test that makes no sense
is the failure of the whole query, however deep it stands.  What is prepared can be asked of an
index: no phrase has fewer than two words, and each pattern is written as a regular expression that
reads as the pattern. -/
theorem prepared_iff_wellTyped (registry : Registry) (means : d.Means q f)
    (offers : ∀ name, f.Asks name → registry.Offers name) :
    (f.Fits registry →
      ((∃ query, Query.ofFilter registry f = .ok query ∧ ofText registry q = .ok ⟨query, f, d⟩) ↔
        f.WellTyped registry)) ∧
    (¬ f.WellTyped registry →
      ∃ failure, ofText registry q = .error failure ∧ failure.kind = .compilationFailed) ∧
    ∀ p, ofText registry q = .ok p → p.query.Made fun a => f.Asks a.name := by
  have compiles := Filter.succeeds_iff_wellTyped offers
  refine ⟨fun fits => ?_, fun illTyped => ?_, fun p accepted => ?_⟩
  · rw [and_iff_left fits] at compiles
    rw [← compiles]
    constructor
    · rintro ⟨query, compiled, -⟩
      exact ⟨query, compiled⟩
    · rintro ⟨query, compiled⟩
      exact ⟨query, compiled, ofText_of_compiled means offers compiled⟩
  · rcases succeeds_or_error (Query.ofFilter registry f) with compiled | ⟨fault, failed⟩
    · exact absurd (compiles.mp compiled).1 illTyped
    · exact ⟨.compilation fault.message, ofText_of_fault means offers failed, rfl⟩
  · obtain ⟨-, -, compiled, -⟩ := eq_of_ofText means accepted
    exact Query.made_ofFilter compiled fun _ => id

/-- A phrase, a date in quotes and a pattern make sense below a negation, and a bound on prose does
not. -/
theorem prepared_iff_wellTyped_negated :
    let f : Filter := .not (.any [.test "title" (.compare .eq (.text "Snow Wall")),
      .test "createdAt" (.compare .lt (.text "2020-01-01")), .test "countryCode" (.like "U%" true)])
    let g : Filter := .not (.test "title" (.compare .gt (.text "a")))
    (∃ query, Query.ofFilter Registry.standard f = .ok query ∧
      ofText Registry.standard f.text = .ok ⟨query, f, .extended⟩ ∧
        query.Made fun a => f.Asks a.name) ∧
    ∃ failure, ofText Registry.standard g.text = .error failure ∧
      failure.kind = .compilationFailed := by
  intro f g
  have named (a : Attribute) (free : a ≠ .id) : Dialect.extended.IsAttribute a.name :=
    a.isAttribute_name fun _ => free
  have means {f : Filter} (writable : f.Writable .extended) :
      Dialect.extended.Means f.text f :=
    Dialect.means_extended (Dialect.read_of_written writable String.toList_ofList)
  have writable : f.Writable .extended := by
    refine .not (.any (by decide) ?_)
    simp only [List.forall_mem_cons]
    exact ⟨.test (named .title (by decide)) trivial, .test (named .createdAt (by decide)) trivial,
      .test (named .countryCode (by decide)) fun _ => rfl, List.forall_mem_nil _⟩
  have writable' : g.Writable .extended := .not (.test (named .title (by decide)) trivial)
  have offers (name : String) (asks : f.Asks name) : Registry.standard.Offers name := by
    rw [← Filter.mem_mentioned_iff] at asks
    simp only [f, Filter.mentioned, Filter.mentionedIn, List.singleton_append, List.append_nil,
      List.mem_cons, List.not_mem_nil, or_false] at asks
    rcases asks with rfl | rfl | rfl
    · exact ⟨.title, rfl, rfl⟩
    · exact ⟨.createdAt, rfl, rfl⟩
    · exact ⟨.countryCode, rfl, rfl⟩
  have offers' (name : String) (asks : g.Asks name) : Registry.standard.Offers name := by
    rw [← Filter.mem_mentioned_iff] at asks
    obtain rfl := List.mem_singleton.mp asks
    exact ⟨.title, rfl, rfl⟩
  have each : ∀ name p, f.HasTest name p → ∀ a : Attribute, a.name = name →
      p.Suits (Registry.standard.kind a) ∧ p.Fits (Registry.standard.kind a) := by
    rw [Filter.forall_hasTest_not_iff, Filter.forall_hasTest_any_iff]
    simp only [List.forall_mem_cons, Filter.forall_hasTest_test_iff]
    refine ⟨?_, ?_, ?_, List.forall_mem_nil _⟩
    · intro a same
      obtain rfl := Attribute.name_injective (b := .title) same
      exact ⟨fun isDate => absurd isDate (by decide), trivial⟩
    · intro a same
      obtain rfl := Attribute.name_injective (b := .createdAt) same
      exact ⟨⟨by decide, fun _ => ⟨.ofSeconds 1577836800, by rfl⟩⟩, trivial⟩
    · intro a same
      obtain rfl := Attribute.name_injective (b := .countryCode) same
      exact ⟨show Kind.keyword ≠ .date by decide,
        show Pattern.isTooLarge _ = false by decide +kernel⟩
  have illTyped : ¬ g.WellTyped Registry.standard := fun wellTyped =>
    (wellTyped .title _ (.not .here)).1 rfl
  obtain ⟨prepares, -, made⟩ := prepared_iff_wellTyped Registry.standard (means writable) offers
  obtain ⟨query, compiled, prepared⟩ :=
    (prepares fun a p within => (each _ p within a rfl).2).mpr
      fun a p within => (each _ p within a rfl).1
  exact ⟨⟨query, compiled, prepared, made _ prepared⟩,
    (prepared_iff_wellTyped Registry.standard (means writable') offers').2.1 illTyped⟩

end PreparedQuery

end RecordSearch
