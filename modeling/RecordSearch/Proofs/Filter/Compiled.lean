import RecordSearch.Proofs.Filter.Asks
import RecordSearch.Proofs.Filter.Meaning
import RecordSearch.Proofs.Pattern.Matches
import RecordSearch.Proofs.Record.Stored

/-!
# Compiled filters find what they mean

A query `Tells` a condition of a record if it matches the stored record exactly if the condition is
true.  Each step of the compiler makes a query that tells what its part of a filter means, and the
induction over filters puts these together.
-/

namespace RecordSearch

open RecordSearch.Attempt RecordSearch.Text
open RecordSearch.Time (Instant)

/-- Every conjunction and every disjunction in a filter has a part. -/
inductive Filter.HasParts : Filter → Prop where
  | everything : HasParts .everything
  | nothing : HasParts .nothing
  | all {parts : List Filter} (filled : parts ≠ []) (each : ∀ f ∈ parts, HasParts f) :
      HasParts (.all parts)
  | any {parts : List Filter} (filled : parts ≠ []) (each : ∀ f ∈ parts, HasParts f) :
      HasParts (.any parts)
  | not {inner : Filter} (hasParts : HasParts inner) : HasParts (.not inner)
  | test (name : String) (p : Predicate) : HasParts (.test name p)

/-- The terms under which an index finds an attribute of a record. -/
abbrev Record.terms (registry : Registry) (r : Record) (a : Attribute) : List (Nat × String) :=
  (Stored.ofRecord registry r).terms registry.kind a

section Bounds

variable {α : Type} {lt : α → α → Bool} {a : α}

theorem Bound.isBelow_iff {bound : Bound α} :
    bound.isBelow lt a = true ↔
      bound.Says (fun b => lt a b = false) (fun b => lt b a = true) := by
  cases bound <;> simp [isBelow, Says]

theorem Bound.isAbove_iff {bound : Bound α} :
    bound.isAbove lt a = true ↔
      bound.Says (fun b => lt b a = false) (fun b => lt a b = true) := by
  cases bound <;> simp [isAbove, Says]

theorem Bound.says_map_iff {β : Type} {f : β → α} {included excluded : α → Prop}
    {bound : Bound β} :
    (bound.map f).Says included excluded ↔
      bound.Says (fun b => included (f b)) (fun b => excluded (f b)) := by
  cases bound <;> rfl

end Bounds

section Phrases

variable {sought words : List (Nat × String)}

theorem stands_iff {position : Int} {word : String} :
    stands words position word = true ↔ ∃ t ∈ words, (t.1 : Int) = position ∧ t.2 = word := by
  simp [stands]

theorem isPhraseOf_iff (filled : sought ≠ []) :
    isPhraseOf sought words = true ↔ Occurs sought words := by
  obtain ⟨⟨offset, word⟩, others, rfl⟩ := List.exists_cons_of_ne_nil filled
  simp only [isPhraseOf, List.any_eq_true, Bool.and_eq_true, beq_iff_eq, List.all_eq_true,
    stands_iff]
  constructor
  · rintro ⟨t, -, -, each⟩
    exact ⟨(t.1 : Int) - offset, each⟩
  · rintro ⟨shift, each⟩
    obtain ⟨t, member, position, same⟩ := each ⟨offset, word⟩ (by simp)
    have start : (t.1 : Int) - offset = shift := by
      rw [position]
      exact Int.add_sub_cancel shift offset
    exact ⟨t, member, same, by rwa [start]⟩

theorem occurs_singleton_iff {w : Nat × String} :
    Occurs [w] words ↔ ∃ t ∈ words, t.2 = w.2 := by
  constructor
  · rintro ⟨shift, each⟩
    obtain ⟨t, member, -, same⟩ := each w (by simp)
    exact ⟨t, member, same⟩
  · rintro ⟨t, member, same⟩
    refine ⟨(t.1 : Int) - w.1, fun w' only => ?_⟩
    rw [List.mem_singleton.mp only]
    exact ⟨t, member, (Int.sub_add_cancel _ _).symm, same⟩

end Phrases

namespace Query

variable {registry : Registry} {r : Record} {a : Attribute} {q : Query} {P : Prop}

/-- A query matches a stored record exactly if something is true. -/
def Tells (registry : Registry) (r : Record) (q : Query) (P : Prop) : Prop :=
  q.matches' registry.kind (.ofRecord registry r) = true ↔ P

theorem Tells.matches'_iff (tells : Tells registry r q P) :
    q.matches' registry.kind (.ofRecord registry r) = true ↔ P := tells

section Connectives

variable {α : Type} {sat : α → Prop} {l : List α} {qs : List Query}

theorem everyMatches_iff (each : List.Forall₂ (fun x q => Tells registry r q (sat x)) l qs) :
    everyMatches registry.kind (.ofRecord registry r) qs = true ↔ ∀ x ∈ l, sat x := by
  induction each with
  | nil => simp [everyMatches]
  | cons tells _ inductionHypothesis =>
      rw [everyMatches, Bool.and_eq_true, inductionHypothesis, tells.matches'_iff,
        List.forall_mem_cons]

theorem someMatches_iff (each : List.Forall₂ (fun x q => Tells registry r q (sat x)) l qs) :
    someMatches registry.kind (.ofRecord registry r) qs = true ↔ ∃ x ∈ l, sat x := by
  induction each with
  | nil => simp [someMatches]
  | cons tells _ inductionHypothesis =>
      rw [someMatches, Bool.or_eq_true, inductionHypothesis, tells.matches'_iff,
        List.exists_mem_cons_iff]

/-- Without any part, nothing must match, and so something else should. -/
theorem Tells.all (each : List.Forall₂ (fun x q => Tells registry r q (sat x)) l qs)
    (filled : l ≠ []) : Tells registry r (boolean qs [] []) (∀ x ∈ l, sat x) := by
  have compiled : qs.isEmpty = false := by
    cases each with
    | nil => exact absurd rfl filled
    | cons => rfl
  rw [Tells, matches', Bool.and_eq_true, Bool.and_eq_true, everyMatches_iff each]
  simp [compiled, someMatches]

theorem Tells.only (each : List.Forall₂ (fun x q => Tells registry r q (sat x)) l [q]) :
    Tells registry r q (∀ x ∈ l, sat x) := by
  cases each with
  | cons tells others =>
      cases others
      rwa [List.forall_mem_singleton]

theorem Tells.any (each : List.Forall₂ (fun x q => Tells registry r q (sat x)) l qs) :
    Tells registry r (boolean [] qs []) (∃ x ∈ l, sat x) := by
  rw [Tells, matches', Bool.and_eq_true, Bool.and_eq_true, Bool.or_eq_true, someMatches_iff each]
  simp [everyMatches, someMatches]

theorem Tells.negate (tells : Tells registry r q P) : Tells registry r q.negate (¬ P) := by
  rw [Tells, Query.negate, matches', ← tells.matches'_iff]
  simp [everyMatches, someMatches, matches']

end Connectives

section Findings

theorem finding_text (kind : registry.kind a = .text) :
    r.finding registry a = .prose (r.terms registry a) := by
  simp only [Record.finding, Record.terms, Stored.terms, Stored.text?_ofRecord, kind]
  cases r.text? a <;> rfl

theorem finding_keyword (kind : registry.kind a = .keyword) :
    (∃ s, r.finding registry a = .keyword s ∧ r.terms registry a = [(0, s)]) ∨
      r.finding registry a = .nothing ∧ r.terms registry a = [] := by
  simp only [Record.finding, Record.terms, Stored.terms, Stored.text?_ofRecord, kind, Kind.terms]
  cases r.text? a with
  | none => exact .inr ⟨rfl, rfl⟩
  | some s =>
      by_cases short : s.utf8ByteSize ≤ longestKeyword
      · exact .inl ⟨s, if_pos short, if_pos short⟩
      · exact .inr ⟨if_neg short, if_neg short⟩

theorem finding_date (kind : registry.kind a = .date) :
    (∃ seconds, r.finding registry a = .moment seconds ∧
        (Stored.ofRecord registry r).seconds? a = some seconds) ∨
      r.finding registry a = .nothing ∧ (Stored.ofRecord registry r).seconds? a = none := by
  simp only [Record.finding, Stored.seconds?, Stored.field?_ofRecord, kind]
  cases r.value a with
  | none => exact .inr ⟨rfl, rfl⟩
  | some v =>
      cases v with
      | text s => exact .inr ⟨rfl, rfl⟩
      | date at' => exact .inl ⟨at'.seconds, rfl, rfl⟩

end Findings

section Words

variable {sought : List (Nat × String)} {c : Cluster}

theorem tells_term {word : String} :
    Tells registry r (.term a word) (∃ t ∈ r.terms registry a, t.2 = word) := by
  rw [Tells, matches', List.any_eq_true]
  simp only [beq_iff_eq]

theorem tells_pattern {p : Pattern} :
    Tells registry r (.pattern a p) (∃ t ∈ r.terms registry a, p.Matches t.2.toList) := by
  rw [Tells, matches', List.any_eq_true]
  simp only [Pattern.accepts_iff]

theorem tells_anything :
    Tells registry r (.pattern a .anything) (Shows (r.terms registry a)) := by
  rw [Tells, tells_pattern.matches'_iff]
  simp only [Pattern.matches_anything_iff, Shows]

theorem tells_ofWords :
    Tells registry r (ofWords a sought) (Mentions sought (r.terms registry a)) := by
  match sought with
  | [] =>
      have asked : ofWords a [] = .pattern a .anything := rfl
      rw [asked, Tells, tells_anything.matches'_iff]
      simp [Mentions]
  | [w] =>
      rw [Tells, ofWords, tells_term.matches'_iff, ← occurs_singleton_iff]
      simp [Mentions]
  | w :: w' :: others =>
      have asked : ofWords a (w :: w' :: others) = .phrase a (w :: w' :: others) := rfl
      rw [asked, Tells, matches', isPhraseOf_iff (by simp)]
      simp [Mentions]

theorem tells_ofPattern {p : Pattern} {fault : CompileFault}
    (compiled : ofPattern a p fault = .ok q) :
    Tells registry r q (∃ t ∈ r.terms registry a, p.Matches t.2.toList) := by
  unfold ofPattern at compiled
  split at compiled
  · cases compiled
  · cases compiled
    exact tells_pattern

theorem Cluster.pattern_of_plain? {t : Token} (plain : c.plain? = some t) :
    c.pattern = Pattern.ofWord t.word := by
  obtain ⟨opened, words, closed⟩ := c
  match words with
  | [] => simp [plain?] at plain
  | [t'] =>
      simp only [plain?] at plain
      split at plain
      · cases plain
      · next bare =>
          cases plain
          simp only [Bool.or_eq_true, not_or, Bool.not_eq_true] at bare
          simp [pattern, joinWords, bare]
  | _ :: _ :: _ => simp [plain?] at plain

theorem isSome_plain?_of_mapM {l : List Cluster} {tokens : List Token}
    (mapped : l.mapM Cluster.plain? = some tokens) :
    ∀ c ∈ l, c.plain?.isSome = true := by
  induction l generalizing tokens with
  | nil => exact List.forall_mem_nil _
  | cons c l inductionHypothesis =>
      rw [List.mapM_cons, Option.bind_eq_bind, Option.bind_eq_some_iff] at mapped
      obtain ⟨t, plain, rest⟩ := mapped
      rw [Option.bind_eq_bind, Option.bind_eq_some_iff] at rest
      obtain ⟨others, later, -⟩ := rest
      exact List.forall_mem_cons.mpr
        ⟨Option.isSome_iff_exists.mpr ⟨t, plain⟩, inductionHypothesis later⟩

theorem tells_cluster (compiled : c.query a = .ok q) :
    Tells registry r q (∃ t ∈ r.terms registry a, c.pattern.Matches t.2.toList) := by
  unfold Cluster.query at compiled
  split at compiled
  · next t plain =>
      cases compiled
      rw [Tells, tells_term.matches'_iff, Cluster.pattern_of_plain? plain]
      simp only [Pattern.matches_ofWord_iff, String.toList_inj]
  · exact tells_ofPattern compiled

theorem tells_ofProsePattern {text : String} (ignoreCase : Bool)
    (compiled : ofProsePattern a text = .ok q) :
    Tells registry r q ((Finding.prose (r.terms registry a)).Resembles text ignoreCase) := by
  simp only [ofProsePattern] at compiled
  rw [← clustersOf] at compiled
  simp only [Finding.Resembles]
  cases plain : (clustersOf text).mapM Cluster.plain? with
  | some words =>
      rw [plain] at compiled
      cases compiled
      exact tells_ofWords
  | none =>
      have filled : clustersOf text ≠ [] := fun empty => by simp [empty] at plain
      rw [plain] at compiled
      cases queried : (clustersOf text).mapM (Cluster.query a) with
      | error fault => simp [queried] at compiled
      | ok queries =>
          have each : List.Forall₂ (fun c q => Tells registry r q
              (∃ t ∈ r.terms registry a, c.pattern.Matches t.2.toList)) (clustersOf text) queries :=
            (forall₂_of_mapM queried).imp fun _ _ => tells_cluster
          rw [queried] at compiled
          cases queries with
          | nil => exact absurd (List.forall₂_nil_right_iff.mp each) filled
          | cons first others =>
              cases others with
              | nil =>
                  cases compiled
                  exact .only each
              | cons =>
                  cases compiled
                  exact .all each filled

end Words

section Tests

variable {v : Literal} {lower upper : Bound Literal}

theorem tells_holding :
    Tells registry r (holding (registry.kind a) a) (r.finding registry a).Present := by
  cases kind : registry.kind a with
  | text =>
      rw [finding_text kind]
      exact tells_anything
  | keyword =>
      rw [holding, Tells, tells_anything.matches'_iff]
      · rcases finding_keyword (r := r) kind with ⟨s, found, terms⟩ | ⟨found, terms⟩ <;>
          simp [found, terms, Finding.Present, Shows]
      · simp
  | date =>
      rcases finding_date (r := r) kind with ⟨seconds, found, held⟩ | ⟨found, held⟩ <;>
        simp [Tells, holding, matches', found, held, Finding.Present, Bound.isBelow,
          Bound.isAbove]

theorem tells_dates {lower upper : Bound Int} (kind : registry.kind a = .date) :
    Tells registry r (.dates a lower upper)
      (∃ seconds, r.finding registry a = .moment seconds ∧
        lower.Says (fun b => b ≤ seconds) (fun b => b < seconds) ∧
          upper.Says (fun b => seconds ≤ b) (fun b => seconds < b)) := by
  rw [Tells, matches']
  rcases finding_date (r := r) kind with ⟨seconds, found, held⟩ | ⟨found, held⟩
  · simp [found, held, Bound.isBelow_iff, Bound.isAbove_iff]
  · simp [found, held]

theorem tells_ofValue (compiled : ofValue (registry.kind a) a v = .ok q) :
    Tells registry r q ((r.finding registry a).Equals v) := by
  cases kind : registry.kind a with
  | text =>
      rw [kind, ofValue] at compiled
      cases compiled
      rw [finding_text kind]
      exact tells_ofWords
  | keyword =>
      rw [kind, ofValue] at compiled
      cases compiled
      rw [Tells, tells_term.matches'_iff]
      rcases finding_keyword (r := r) kind with ⟨s, found, terms⟩ | ⟨found, terms⟩ <;>
        simp [found, terms, Finding.Equals]
  | date =>
      rw [kind, ofValue] at compiled
      cases read : v.asInstant? with
      | none => simp [read] at compiled
      | some at' =>
          simp only [read] at compiled
          cases compiled
          rw [Tells, (tells_dates kind).matches'_iff]
          rcases finding_date (r := r) kind with ⟨seconds, found, -⟩ | ⟨found, -⟩
          · simp only [found, Finding.Equals, read, Bound.Says, Finding.moment.injEq,
              Option.some.injEq, exists_eq_left']
            omega
          · simp [found, Finding.Equals]

theorem says_of_boundSeconds {bound : Bound Literal} {bound' : Bound Int}
    {included excluded : Int → Prop} (converted : boundSeconds a bound = .ok bound') :
    bound'.Says included excluded ↔
      bound.Says (fun v => ∃ at', v.asInstant? = some at' ∧ included at'.seconds)
        (fun v => ∃ at', v.asInstant? = some at' ∧ excluded at'.seconds) := by
  cases bound with
  | unbounded =>
      cases converted
      rfl
  | included v | excluded v =>
      rw [boundSeconds] at converted
      cases read : v.asInstant? with
      | none => simp [read] at converted
      | some at' =>
          simp only [read] at converted
          cases converted
          simp [Bound.Says, read]

theorem tells_ofRange (compiled : ofRange (registry.kind a) a lower upper = .ok q) :
    Tells registry r q ((r.finding registry a).Lies lower upper) := by
  cases kind : registry.kind a with
  | text => simp [kind, ofRange] at compiled
  | keyword =>
      rw [kind, ofRange] at compiled
      cases compiled
      rw [Tells, matches']
      rcases finding_keyword (r := r) kind with ⟨s, found, terms⟩ | ⟨found, terms⟩ <;>
        simp [found, terms, Finding.Lies, Bound.isBelow_iff, Bound.isAbove_iff,
          Bound.says_map_iff]
  | date =>
      rw [kind, ofRange] at compiled
      obtain ⟨lower', first, later⟩ := bind_eq_ok compiled
      obtain ⟨upper', second, done⟩ := bind_eq_ok later
      cases done
      rw [Tells, (tells_dates kind).matches'_iff]
      rcases finding_date (r := r) kind with ⟨seconds, found, -⟩ | ⟨found, -⟩
      · simp [found, Finding.Lies, says_of_boundSeconds first, says_of_boundSeconds second]
      · simp [found, Finding.Lies]

theorem ofPeriod_eq_ofRange {lower upper : Bound Instant}
    (compiled : ofPeriod (registry.kind a) a lower upper = .ok q) :
    ofRange (registry.kind a) a (lower.map .date) (upper.map .date) = .ok q := by
  cases kind : registry.kind a with
  | text | keyword => simp [kind, ofPeriod] at compiled
  | date =>
      rw [kind, ofPeriod] at compiled
      rw [← compiled, ofRange]
      cases lower <;> cases upper <;> rfl

theorem tells_ofLike {text : String} {ignoreCase : Bool}
    (compiled : ofLike (registry.kind a) a text ignoreCase = .ok q) :
    Tells registry r q ((r.finding registry a).Resembles text ignoreCase) := by
  cases kind : registry.kind a with
  | text =>
      rw [kind, ofLike] at compiled
      rw [finding_text kind]
      exact tells_ofProsePattern ignoreCase compiled
  | keyword =>
      rw [kind, ofLike] at compiled
      rw [Tells, (tells_ofPattern compiled).matches'_iff]
      rcases finding_keyword (r := r) kind with ⟨s, found, terms⟩ | ⟨found, terms⟩ <;>
        simp [found, terms, Finding.Resembles]
  | date => simp [kind, ofLike] at compiled

theorem tells_ofPredicate {p : Predicate}
    (compiled : ofPredicate (registry.kind a) a p = .ok q) :
    Tells registry r q (p.Holds (r.finding registry a)) := by
  cases p with
  | compare op v =>
      cases op with
      | eq => exact tells_ofValue compiled
      | notEq =>
          obtain ⟨q', compiled', rfl⟩ := map_eq_ok compiled
          exact (tells_ofValue compiled').negate
      | lt | le | gt | ge => exact tells_ofRange compiled
  | like text ignoreCase => exact tells_ofLike compiled
  | oneOf values =>
      obtain ⟨queries, compiled', rfl⟩ := map_eq_ok compiled
      exact .any ((forall₂_of_mapM compiled').imp fun v q => tells_ofValue)
  | between lower upper => exact tells_ofRange compiled
  | isNull =>
      cases compiled
      exact tells_holding.negate
  | before at' | after at' | during start stop =>
      exact tells_ofRange (ofPeriod_eq_ofRange compiled)

theorem ofFilter_test (p : Predicate) :
    ofFilter registry (.test a.name p) = ofPredicate (registry.kind a) a p := by
  rw [ofFilter, ofTest, a.ofName?_name]

theorem tells_ofTest {name : String} {p : Predicate}
    (compiled : ofTest registry name p = .ok q) :
    Tells registry r q (p.Holds (r.findingNamed registry name)) := by
  unfold ofTest at compiled
  unfold Record.findingNamed
  cases named : Attribute.ofName? name with
  | some a =>
      rw [named] at compiled
      exact tells_ofPredicate compiled
  | none =>
      rw [named] at compiled
      by_cases empty : p = .oneOf []
      · simp only [empty, if_true] at compiled
        cases compiled
        simp [Tells, empty, Predicate.Holds, matches', everyMatches, someMatches]
      · simp [empty] at compiled

end Tests

theorem forall₂_of_ofFilters {fs : List Filter} {qs : List Query}
    (compiled : ofFilters registry fs = .ok qs) :
    List.Forall₂ (fun f q => ofFilter registry f = .ok q) fs qs := by
  apply forall₂_of_mapM
  rwa [← ofFilters_eq_mapM]

theorem forall₂_tells {fs : List Filter} {qs : List Query}
    (each : ∀ f ∈ fs, ∀ {q}, ofFilter registry f = .ok q →
      Tells registry r q (f.Holds registry r))
    (compiled : ofFilters registry fs = .ok qs) :
    List.Forall₂ (fun f q => Tells registry r q (f.Holds registry r)) fs qs := by
  have both := (List.forall₂_and_left _ _).mpr ⟨fun f member => @each f member,
    forall₂_of_ofFilters compiled⟩
  exact both.imp fun f q ⟨tells, compiled'⟩ => tells compiled'

/-- The query of a filter finds a record exactly if the filter is true of it. -/
theorem tells_ofFilter {f : Filter} (hasParts : f.HasParts)
    (compiled : ofFilter registry f = .ok q) : Tells registry r q (f.Holds registry r) := by
  induction hasParts generalizing q with
  | everything =>
      cases compiled
      simp [Tells, matches', Filter.Holds]
  | nothing =>
      cases compiled
      simp [Tells, matches', Filter.Holds]
  | all filled _ inductionHypothesis =>
      rw [ofFilter] at compiled
      obtain ⟨qs, compiled', rfl⟩ := map_eq_ok compiled
      rw [Filter.Holds, Filter.everyHolds_iff]
      exact .all (forall₂_tells inductionHypothesis compiled') filled
  | any _ _ inductionHypothesis =>
      rw [ofFilter] at compiled
      obtain ⟨qs, compiled', rfl⟩ := map_eq_ok compiled
      rw [Filter.Holds, Filter.someHolds_iff]
      exact .any (forall₂_tells inductionHypothesis compiled')
  | not _ inductionHypothesis =>
      rw [ofFilter] at compiled
      obtain ⟨q', compiled', rfl⟩ := map_eq_ok compiled
      rw [Filter.Holds]
      exact (inductionHypothesis compiled').negate
  | test name p =>
      rw [ofFilter] at compiled
      rw [Filter.Holds]
      exact tells_ofTest compiled

end Query

end RecordSearch
