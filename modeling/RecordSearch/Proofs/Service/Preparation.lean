import RecordSearch.Proofs.Grammar.Single
import RecordSearch.Service.Preparation

/-!
# Only attributes that may be queried are asked for

A query means what the first dialect that accepts it reads.  It is refused for its attributes
exactly if one of its tests is of an attribute that may not be queried, and then with all of these.
What may be queried has a place in the index, so that no later step comes upon an unknown name.
-/

namespace RecordSearch

open RecordSearch.Text

variable {registry : Registry} {q : String} {d : Dialect} {f : Filter}

/-- A dialect is the first of all to accept a query, and reads a filter. -/
structure Dialect.Means (d : Dialect) (q : String) (f : Filter) : Prop where
  read : d.read q = .ok f
  first : ∃ before after, chain = before ++ d :: after ∧
    ∀ e ∈ before, ∃ refusal, e.read q = .error refusal

theorem Dialect.means_extended (read : extended.read q = .ok f) : extended.Means q f where
  read := read
  first := ⟨[], [classic], rfl, List.forall_mem_nil _⟩

theorem Dialect.means_classic {refusal : Refusal} (refused : extended.read q = .error refusal)
    (read : classic.read q = .ok f) : classic.Means q f where
  read := read
  first := ⟨[extended], [], rfl, List.forall_mem_singleton.mpr ⟨refusal, refused⟩⟩

namespace Parsed

variable {before after : List Dialect}

theorem ofQuery_of_read (refused : ∀ e ∈ before, ∃ refusal, e.read q = .error refusal)
    (read : d.read q = .ok f) : ofQuery q (before ++ d :: after) = .ok ⟨f, d⟩ := by
  induction before with
  | nil => simp only [List.nil_append, ofQuery, read]
  | cons e before inductionHypothesis =>
      obtain ⟨refusal, first⟩ := refused e List.mem_cons_self
      have later := inductionHypothesis fun e' member => refused e' (List.mem_cons_of_mem e member)
      simp only [List.cons_append, ofQuery, first, later]

theorem refusals_of_ofQuery {dialects : List Dialect} {refusals : List (Dialect × Refusal)}
    (failed : ofQuery q dialects = .error refusals) :
    refusals.map Prod.fst = dialects ∧ ∀ r ∈ refusals, r.1.read q = .error r.2 := by
  induction dialects generalizing refusals with
  | nil =>
      cases failed
      exact ⟨rfl, List.forall_mem_nil _⟩
  | cons d dialects inductionHypothesis =>
      unfold ofQuery at failed
      split at failed
      · cases failed
      · next refusal first =>
          split at failed
          · cases failed
          · next others later =>
              cases failed
              obtain ⟨rfl, each⟩ := inductionHypothesis later
              exact ⟨rfl, List.forall_mem_cons.mpr ⟨first, each⟩⟩

/-- Either some dialect is the first to accept a query, or none accepts it. -/
theorem ofQuery_cases (q : String) (dialects : List Dialect) :
    (∃ before d after f, dialects = before ++ d :: after ∧
      (∀ e ∈ before, ∃ refusal, e.read q = .error refusal) ∧ d.read q = .ok f) ∨
    ∃ refusals, ofQuery q dialects = .error refusals := by
  induction dialects with
  | nil => exact .inr ⟨[], rfl⟩
  | cons d dialects inductionHypothesis =>
      cases read : d.read q with
      | ok f => exact .inl ⟨[], d, dialects, f, rfl, List.forall_mem_nil _, read⟩
      | error refusal =>
          rcases inductionHypothesis with ⟨before, e, after, f, rfl, refused, accepted⟩ | later
          · refine .inl ⟨d :: before, e, after, f, rfl, ?_, accepted⟩
            exact List.forall_mem_cons.mpr ⟨⟨refusal, read⟩, refused⟩
          · obtain ⟨refusals, failed⟩ := later
            exact .inr ⟨(d, refusal) :: refusals, by simp only [ofQuery, read, failed]⟩

theorem means_or_refused (q : String) :
    (∃ d f, Dialect.Means d q f) ∨ ∃ refusals, ofQuery q Dialect.chain = .error refusals := by
  rcases ofQuery_cases q Dialect.chain with ⟨before, d, after, f, place, refused, read⟩ | failed
  · exact .inl ⟨d, f, read, before, after, place, refused⟩
  · exact .inr failed

end Parsed

theorem Dialect.Means.ofQuery (means : d.Means q f) : Parsed.ofQuery q chain = .ok ⟨f, d⟩ := by
  obtain ⟨before, after, place, refused⟩ := means.first
  rw [place]
  exact Parsed.ofQuery_of_read refused means.read

namespace Registry

/-- A name is that of an attribute which may be queried. -/
def Offers (registry : Registry) (name : String) : Prop :=
  ∃ a : Attribute, a.name = name ∧ registry.queryable a = true

theorem isQueryable_iff {name : String} : registry.isQueryable name = true ↔ registry.Offers name := by
  unfold isQueryable
  constructor
  · intro queryable
    cases named : Attribute.ofName? name with
    | none =>
        rw [named] at queryable
        cases queryable
    | some a =>
        rw [named] at queryable
        exact ⟨a, Attribute.name_of_ofName? named, queryable⟩
  · rintro ⟨a, rfl, queryable⟩
    rw [Attribute.ofName?_name]
    exact queryable

theorem mem_unsupported_iff {name : String} :
    name ∈ registry.unsupported f.mentioned ↔ f.Asks name ∧ ¬ registry.Offers name := by
  rw [unsupported, mem_textSet, List.mem_filter, Filter.mem_mentioned_iff, ← isQueryable_iff,
    Bool.not_eq_true, Bool.not_eq_true']

theorem unsupported_eq_nil_iff :
    registry.unsupported f.mentioned = [] ↔ ∀ name, f.Asks name → registry.Offers name := by
  rw [List.eq_nil_iff_forall_not_mem]
  constructor
  · intro none name asks
    by_contra refused
    exact none name (mem_unsupported_iff.mpr ⟨asks, refused⟩)
  · intro each name member
    obtain ⟨asks, refused⟩ := mem_unsupported_iff.mp member
    exact refused (each name asks)

theorem Offers.mem_layout {name : String} (offers : registry.Offers name) :
    ∃ a, Attribute.ofName? name = some a ∧ (a, registry.kind a) ∈ registry.layout := by
  obtain ⟨a, rfl, -⟩ := offers
  exact ⟨a, a.ofName?_name, List.mem_map_of_mem (registry.mem_order a)⟩

end Registry

namespace PreparedQuery

theorem ofText_of_refused {refusals : List (Dialect × Refusal)}
    (failed : Parsed.ofQuery q Dialect.chain = .error refusals) :
    ofText registry q = .error (.malformedQuery refusals) := by
  simp only [ofText, Registry.accept, failed]

theorem ofText_of_unsupported (means : d.Means q f)
    (some : registry.unsupported f.mentioned ≠ []) :
    ofText registry q = .error (.illegalQuery (registry.unsupported f.mentioned)) := by
  simp only [ofText, Registry.accept, means.ofQuery]

theorem accept_of_offers (means : d.Means q f)
    (offers : ∀ name, f.Asks name → registry.Offers name) :
    registry.accept q = .ok ⟨f, d⟩ := by
  simp only [Registry.accept, means.ofQuery, Registry.unsupported_eq_nil_iff.mpr offers]

theorem ofText_of_compiled {query : Query} (means : d.Means q f)
    (offers : ∀ name, f.Asks name → registry.Offers name)
    (compiled : Query.ofFilter registry f = .ok query) :
    ofText registry q = .ok ⟨query, f, d⟩ := by
  simp only [ofText, accept_of_offers means offers, compiled]

theorem ofText_of_fault {fault : CompileFault} (means : d.Means q f)
    (offers : ∀ name, f.Asks name → registry.Offers name)
    (failed : Query.ofFilter registry f = .error fault) :
    ofText registry q = .error (.compilation fault.message) := by
  simp only [ofText, accept_of_offers means offers, failed]

/-- What comes of a query that means a filter: all names that may not be queried, or a query of
the filter, or a fault that does not lie in a name. -/
inductive Outcome (registry : Registry) (q : String) (d : Dialect) (f : Filter) : Prop where
  | illegal (name : String) (asks : f.Asks name) (refused : ¬ registry.Offers name)
      (result : ofText registry q = .error (.illegalQuery (registry.unsupported f.mentioned)))
  | prepared (query : Query) (offers : ∀ name, f.Asks name → registry.Offers name)
      (compiled : Query.ofFilter registry f = .ok query)
      (result : ofText registry q = .ok ⟨query, f, d⟩)
  | fault (fault : CompileFault) (offers : ∀ name, f.Asks name → registry.Offers name)
      (failed : Query.ofFilter registry f = .error fault) (registered : fault.OfRegistered)
      (result : ofText registry q = .error (.compilation fault.message))

theorem outcome (registry : Registry) (means : d.Means q f) : Outcome registry q d f := by
  by_cases offers : ∀ name, f.Asks name → registry.Offers name
  · cases compiled : Query.ofFilter registry f with
    | ok query => exact .prepared query offers compiled (ofText_of_compiled means offers compiled)
    | error fault =>
        have registered : fault.OfRegistered :=
          Query.ofRegistered_of_ofFilter compiled fun name asks =>
            (offers name asks).mem_layout.imp fun _ both => both.1
        exact .fault fault offers compiled registered (ofText_of_fault means offers compiled)
  · obtain ⟨name, refused⟩ := not_forall.mp offers
    obtain ⟨asks, refused⟩ := Classical.not_imp.mp refused
    have some : registry.unsupported f.mentioned ≠ [] := fun none =>
      refused (Registry.unsupported_eq_nil_iff.mp none name asks)
    exact .illegal name asks refused (ofText_of_unsupported means some)

theorem refused_of_malformed {refusals : List (Dialect × Refusal)}
    (failed : ofText registry q = .error (.malformedQuery refusals)) :
    refusals.map Prod.fst = Dialect.chain ∧ ∀ r ∈ refusals, r.1.read q = .error r.2 := by
  rcases Parsed.means_or_refused q with ⟨d, f, means⟩ | ⟨others, refused⟩
  · cases outcome registry means with
    | illegal _ _ _ result | prepared _ _ _ result | fault _ _ _ _ result =>
        rw [result] at failed
        cases failed
  · rw [ofText_of_refused refused] at failed
    cases failed
    exact Parsed.refusals_of_ofQuery refused

theorem malformed_iff :
    (∃ refusals, ofText registry q = .error (.malformedQuery refusals)) ↔
      ∀ d ∈ Dialect.chain, ∃ refusal, d.read q = .error refusal := by
  constructor
  · rintro ⟨refusals, failed⟩ d member
    obtain ⟨order, each⟩ := refused_of_malformed failed
    rw [← order] at member
    obtain ⟨r, among, rfl⟩ := List.mem_map.mp member
    exact ⟨r.2, each r among⟩
  · intro each
    rcases Parsed.means_or_refused q with ⟨d, f, means⟩ | ⟨refusals, refused⟩
    · obtain ⟨before, after, place, -⟩ := means.first
      obtain ⟨refusal, refused⟩ := each d (place ▸ List.mem_append_right before List.mem_cons_self)
      rw [means.read] at refused
      cases refused
    · exact ⟨refusals, ofText_of_refused refused⟩

/-- The names of an illegal query are those it asks for that may not be queried. -/
theorem names_of_illegal {names : List String} (means : d.Means q f)
    (failed : ofText registry q = .error (.illegalQuery names)) :
    names = registry.unsupported f.mentioned ∧ ∃ name, f.Asks name ∧ ¬ registry.Offers name := by
  cases outcome registry means with
  | illegal name asks refused result =>
      rw [result] at failed
      cases failed
      exact ⟨rfl, name, asks, refused⟩
  | prepared _ _ _ result | fault _ _ _ _ result =>
      rw [result] at failed
      cases failed

theorem illegal_iff (means : d.Means q f) :
    (∃ names, ofText registry q = .error (.illegalQuery names)) ↔
      ∃ name, f.Asks name ∧ ¬ registry.Offers name := by
  constructor
  · rintro ⟨names, failed⟩
    exact (names_of_illegal means failed).2
  · rintro ⟨name, asks, refused⟩
    have some : registry.unsupported f.mentioned ≠ [] := fun none =>
      refused (Registry.unsupported_eq_nil_iff.mp none name asks)
    exact ⟨_, ofText_of_unsupported means some⟩

/-- A query that asks only for what may be queried fails for its values or patterns, if at all. -/
theorem fault_of_offers {failure : Failure} (means : d.Means q f)
    (offers : ∀ name, f.Asks name → registry.Offers name)
    (failed : ofText registry q = .error failure) :
    ∃ fault, Query.ofFilter registry f = .error fault ∧ failure = .compilation fault.message ∧
      fault.OfRegistered := by
  cases outcome registry means with
  | illegal name asks refused result => exact absurd (offers name asks) refused
  | prepared _ _ _ result =>
      rw [result] at failed
      cases failed
  | fault fault _ compiled registered result =>
      rw [result] at failed
      cases failed
      exact ⟨fault, compiled, rfl, registered⟩

/-- A query is prepared as its filter is compiled, if all it asks for may be queried. -/
theorem eq_of_ofText {p : PreparedQuery} (means : d.Means q f)
    (accepted : ofText registry q = .ok p) :
    p.filter = f ∧ p.dialect = d ∧ Query.ofFilter registry f = .ok p.query ∧
      ∀ name, f.Asks name → registry.Offers name := by
  cases outcome registry means with
  | illegal _ _ _ result | fault _ _ _ _ result =>
      rw [result] at accepted
      cases accepted
  | prepared _ offers compiled result =>
      rw [result] at accepted
      cases accepted
      exact ⟨rfl, rfl, compiled, offers⟩

/-- A query is malformed exactly if every dialect refuses it, and the refusals are those of all
dialects in turn.  Else it means the filter of the first dialect that accepts it.  It is illegal
exactly if the filter asks for an attribute that may not be queried, and then with the set of all of
these.  Else all it asks for has a place in the index, it fails for no name, and it is prepared with
that filter and that dialect.  A list of texts without an attribute asks for `id`. -/
theorem ofText_checks (registry : Registry) (q : String) :
    ((∃ refusals, ofText registry q = .error (.malformedQuery refusals)) ↔
      ∀ d ∈ Dialect.chain, ∃ refusal, d.read q = .error refusal) ∧
    (∀ refusals, ofText registry q = .error (.malformedQuery refusals) →
      refusals.map Prod.fst = Dialect.chain ∧ ∀ r ∈ refusals, r.1.read q = .error r.2) ∧
    (∀ d f, Dialect.Means d q f →
      ((∃ names, ofText registry q = .error (.illegalQuery names)) ↔
        ∃ name, f.Asks name ∧ ¬ registry.Offers name) ∧
      (∀ names, ofText registry q = .error (.illegalQuery names) →
        Ascending names ∧ ∀ name, name ∈ names ↔ f.Asks name ∧ ¬ registry.Offers name) ∧
      ((∀ name, f.Asks name → registry.Offers name) →
        (∀ name, f.Asks name → ∃ a, Attribute.ofName? name = some a ∧
          (a, registry.kind a) ∈ registry.layout) ∧
        ∀ failure, ofText registry q = .error failure → ∃ fault,
          Query.ofFilter registry f = .error fault ∧ failure = .compilation fault.message ∧
            ∀ name, fault ≠ .unregistered name) ∧
      ∀ p, ofText registry q = .ok p → p.filter = f ∧ p.dialect = d) ∧
    ∀ texts, texts ≠ [] →
      Dialect.extended.Means (Dialect.identities texts) (.test "id" (.oneOf (texts.map .text))) := by
  refine ⟨malformed_iff, fun refusals => refused_of_malformed, fun d f means =>
    ⟨illegal_iff means, fun names failed => ?_, fun offers => ⟨?_, ?_⟩, fun p accepted => ?_⟩,
    fun texts filled => Dialect.means_extended (Dialect.read_identities filled)⟩
  · obtain ⟨rfl, -⟩ := names_of_illegal means failed
    exact ⟨ascending_textSet _, fun name => Registry.mem_unsupported_iff⟩
  · exact fun name asks => (offers name asks).mem_layout
  · exact fun failure failed => fault_of_offers means offers failed
  · obtain ⟨filter, dialect, -⟩ := eq_of_ofText means accepted
    exact ⟨filter, dialect⟩

/-- Among attributes that may be queried, one that may not is named however deep it stands. -/
theorem ofText_checks_nested :
    let registry : Registry := { Registry.standard with queryable := fun a => a != .countryCode }
    let f : Filter := .any [.test "title" (.compare .eq (.text "x")),
      .not (.test "countryCode" .isNull)]
    ∃ names, ofText registry f.text = .error (.illegalQuery names) ∧
      ∀ name, name ∈ names ↔ name = "countryCode" := by
  intro registry f
  have title : Filter.Writable .extended (.test "title" (.compare .eq (.text "x"))) :=
    .test (Attribute.title.isAttribute_name fun _ => by decide) trivial
  have country : Filter.Writable .extended (.not (.test "countryCode" .isNull)) :=
    .not (.test (Attribute.countryCode.isAttribute_name fun _ => by decide) trivial)
  have writable : f.Writable .extended :=
    .any (by decide) (List.forall_mem_cons.mpr ⟨title, List.forall_mem_singleton.mpr country⟩)
  have read : Dialect.extended.read f.text = .ok f :=
    Dialect.read_of_written writable String.toList_ofList
  have asked (name : String) : f.Asks name ↔ name = "title" ∨ name = "countryCode" := by
    rw [← Filter.mem_mentioned_iff]
    simp [f, Filter.mentioned, Filter.mentionedIn]
  have offered : registry.Offers "title" := ⟨.title, rfl, rfl⟩
  have kept : ¬ registry.Offers "countryCode" := by
    rintro ⟨a, named, queryable⟩
    cases a with
    | countryCode => cases queryable
    | _ => exact absurd named (by decide)
  have checks := (ofText_checks registry f.text).2.2.1 .extended f (Dialect.means_extended read)
  obtain ⟨names, failed⟩ := checks.1.mpr ⟨"countryCode", (asked _).mpr (.inr rfl), kept⟩
  refine ⟨names, failed, fun name => ?_⟩
  rw [(checks.2.1 names failed).2 name, asked]
  constructor
  · rintro ⟨rfl | rfl, refused⟩
    · exact absurd offered refused
    · rfl
  · rintro rfl
    exact ⟨.inr rfl, kept⟩

end PreparedQuery

end RecordSearch
