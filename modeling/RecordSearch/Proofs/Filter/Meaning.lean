import RecordSearch.Query.Compile

/-!
# What filters mean

A filter is true or false of one record under a registry.  Its tests ask for a `Finding`: the part
of a record by which an index knows one of its attributes.  Connectives mean what they say, whether
or not a record has the attributes that are tested below them.
-/

namespace RecordSearch

open RecordSearch.Text
open RecordSearch.Time (Instant)

/-- What an index knows of one attribute of a record. -/
inductive Finding where
  | nothing
  /-- Words with their positions. -/
  | prose (words : List (Nat × String))
  | keyword (s : String)
  | moment (seconds : Int)

/-- What an index knows of an attribute of a record, by the kind of the attribute. -/
def Record.finding (registry : Registry) (r : Record) (a : Attribute) : Finding :=
  match registry.kind a with
  | .text => .prose ((r.text? a).elim [] Kind.text.terms)
  | .keyword =>
      match r.text? a with
      | some s => if s.utf8ByteSize ≤ longestKeyword then .keyword s else .nothing
      | none => .nothing
  | .date =>
      match r.value a with
      | some (.date at') => .moment at'.seconds
      | _ => .nothing

def Record.findingNamed (registry : Registry) (r : Record) (name : String) : Finding :=
  match Attribute.ofName? name with
  | some a => r.finding registry a
  | none => .nothing

/-- What an end of a range says, if there is one. -/
def Bound.Says {α : Type} (included excluded : α → Prop) : Bound α → Prop
  | .unbounded => True
  | .included a => included a
  | .excluded a => excluded a

/-- Words stand among others at their distances from one another. -/
def Occurs (sought words : List (Nat × String)) : Prop :=
  ∃ shift : Int, ∀ w ∈ sought, ∃ t ∈ words, (t.1 : Int) = shift + w.1 ∧ t.2 = w.2

def Shows (words : List (Nat × String)) : Prop := ∃ t ∈ words, '\n' ∉ t.2.toList

/-- Words are found among others. Without words to look for, anything will do. -/
def Mentions (sought words : List (Nat × String)) : Prop :=
  (sought = [] ∧ Shows words) ∨ (sought ≠ [] ∧ Occurs sought words)

def Query.clustersOf (pattern : String) : List Query.Cluster :=
  Query.clusters false [] (Analysis.of pattern.toList).tail (Analysis.of pattern.toList).tokens

namespace Finding

def Present : Finding → Prop
  | nothing => False
  | prose words => Shows words
  | keyword s => '\n' ∉ s.toList
  | moment _ => True

def Equals (v : Literal) : Finding → Prop
  | nothing => False
  | prose words => Mentions (Kind.text.terms v.asText) words
  | keyword s => s = v.asText
  | moment seconds => ∃ at', v.asInstant? = some at' ∧ seconds = at'.seconds

/-- Keywords are in the order of their bytes, and moments in that of their seconds. -/
def Lies (lower upper : Bound Literal) : Finding → Prop
  | nothing => False
  | prose _ => False
  | keyword s =>
      lower.Says (fun v => Utf8.lt s v.asText = false) (fun v => Utf8.lt v.asText s = true) ∧
        upper.Says (fun v => Utf8.lt v.asText s = false) (fun v => Utf8.lt s v.asText = true)
  | moment seconds =>
      lower.Says (fun v => ∃ at', v.asInstant? = some at' ∧ at'.seconds ≤ seconds)
          (fun v => ∃ at', v.asInstant? = some at' ∧ at'.seconds < seconds) ∧
        upper.Says (fun v => ∃ at', v.asInstant? = some at' ∧ seconds ≤ at'.seconds)
          (fun v => ∃ at', v.asInstant? = some at' ∧ seconds < at'.seconds)

/-- A LIKE pattern stands for a keyword as a whole. In prose it stands for a phrase if nothing
touches a `%`, and else each of its clusters for some word. -/
def Resembles (pattern : String) (ignoreCase : Bool) : Finding → Prop
  | nothing => False
  | prose words =>
      match (Query.clustersOf pattern).mapM Query.Cluster.plain? with
      | some plain => Mentions (plain.map fun t => (t.position, t.word)) words
      | none =>
          ∀ c ∈ Query.clustersOf pattern, ∃ t ∈ words, Pattern.Matches c.pattern t.2.toList
  | keyword s => Pattern.Matches (Pattern.ofLike ignoreCase pattern) s.toList
  | moment _ => False

end Finding

/-- What a test asks of an attribute. -/
def Predicate.Holds (found : Finding) : Predicate → Prop
  | compare .eq v => found.Equals v
  | compare .notEq v => ¬ found.Equals v
  | compare .lt v => found.Lies .unbounded (.excluded v)
  | compare .le v => found.Lies .unbounded (.included v)
  | compare .gt v => found.Lies (.excluded v) .unbounded
  | compare .ge v => found.Lies (.included v) .unbounded
  | like pattern ignoreCase => found.Resembles pattern ignoreCase
  | oneOf values => ∃ v ∈ values, found.Equals v
  | between lower upper => found.Lies (.included lower) (.included upper)
  | isNull => ¬ found.Present
  | before at' => found.Lies .unbounded (.excluded (.date at'))
  | after at' => found.Lies (.excluded (.date at')) .unbounded
  | during start stop => found.Lies (.excluded (.date start)) (.excluded (.date stop))

namespace Filter

variable {registry : Registry} {r : Record}

mutual

/-- A filter is true of a record. -/
def Holds (registry : Registry) (r : Record) : Filter → Prop
  | everything => True
  | nothing => False
  | all fs => EveryHolds registry r fs
  | any fs => SomeHolds registry r fs
  | not f => ¬ Holds registry r f
  | test name p => p.Holds (r.findingNamed registry name)

def EveryHolds (registry : Registry) (r : Record) : List Filter → Prop
  | [] => True
  | f :: fs => Holds registry r f ∧ EveryHolds registry r fs

def SomeHolds (registry : Registry) (r : Record) : List Filter → Prop
  | [] => False
  | f :: fs => Holds registry r f ∨ SomeHolds registry r fs

end

theorem holds_test_iff {a : Attribute} {p : Predicate} :
    (test a.name p).Holds registry r ↔ p.Holds (r.finding registry a) := by
  rw [Holds, Record.findingNamed, a.ofName?_name]

theorem everyHolds_iff {fs : List Filter} :
    EveryHolds registry r fs ↔ ∀ f ∈ fs, f.Holds registry r := by
  induction fs with
  | nil => simp [EveryHolds]
  | cons f fs inductionHypothesis => simp [EveryHolds, inductionHypothesis]

theorem someHolds_iff {fs : List Filter} :
    SomeHolds registry r fs ↔ ∃ f ∈ fs, f.Holds registry r := by
  induction fs with
  | nil => simp [SomeHolds]
  | cons f fs inductionHypothesis => simp [SomeHolds, inductionHypothesis]

/-- What a meaning of filters for one record has to satisfy. -/
structure IsMeaning (r : Record) (sat : Filter → Prop) : Prop where
  everything : sat .everything
  nothing : ¬ sat .nothing
  all (fs : List Filter) : sat (.all fs) ↔ ∀ f ∈ fs, sat f
  any (fs : List Filter) : sat (.any fs) ↔ ∃ f ∈ fs, sat f
  not (f : Filter) : sat (.not f) ↔ ¬ sat f
  notEq (name : String) (v : Literal) :
    sat (.test name (.compare .notEq v)) ↔ ¬ sat (.test name (.compare .eq v))
  oneOf (name : String) (values : List Literal) :
    sat (.test name (.oneOf values)) ↔ ∃ v ∈ values, sat (.test name (.compare .eq v))
  /-- Of a record without an attribute, the only tests of it that are true are negations. -/
  lacking (name : String) (p : Predicate) : r.valueNamed name = none →
    (sat (.test name p) ↔ p = .isNull ∨ ∃ v, p = .compare .notEq v)

end Filter

section Lacking

variable {registry : Registry} {r : Record} {name : String} {found : Finding}

theorem not_shows_nil : ¬ Shows [] := by simp [Shows]

theorem not_mentions_nil {sought : List (Nat × String)} : ¬ Mentions sought [] := by
  rintro (⟨_, shows'⟩ | ⟨filled, shift, stands⟩)
  · exact not_shows_nil shows'
  · obtain ⟨w, member⟩ := List.exists_mem_of_ne_nil sought filled
    obtain ⟨t, absent, _⟩ := stands w member
    exact absurd absent List.not_mem_nil

theorem Finding.not_resembles_nil {pattern : String} {ignoreCase : Bool} :
    ¬ (prose []).Resembles pattern ignoreCase := by
  intro resembles
  cases plain : (Query.clustersOf pattern).mapM Query.Cluster.plain? with
  | some words =>
      rw [Resembles, plain] at resembles
      exact not_mentions_nil resembles
  | none =>
      have filled : Query.clustersOf pattern ≠ [] := fun empty => by simp [empty] at plain
      rw [Resembles, plain] at resembles
      obtain ⟨c, member⟩ := List.exists_mem_of_ne_nil _ filled
      obtain ⟨t, absent, _⟩ := resembles c member
      exact absurd absent List.not_mem_nil

structure Finding.Blank (found : Finding) : Prop where
  absent : ¬ found.Present
  different : ∀ v, ¬ found.Equals v
  outside : ∀ lower upper, ¬ found.Lies lower upper
  unlike : ∀ pattern ignoreCase, ¬ found.Resembles pattern ignoreCase

theorem Finding.blank_nothing : nothing.Blank where
  absent := id
  different _ := id
  outside _ _ := id
  unlike _ _ := id

theorem Finding.blank_prose_nil : (prose []).Blank where
  absent := not_shows_nil
  different _ := not_mentions_nil
  outside _ _ := id
  unlike _ _ := not_resembles_nil

theorem Record.blank_findingNamed (lacks : r.valueNamed name = none) :
    (r.findingNamed registry name).Blank := by
  rw [findingNamed]
  cases named : Attribute.ofName? name with
  | none => exact Finding.blank_nothing
  | some a =>
      have unset : r.value a = none := by simpa [valueNamed, named] using lacks
      have textless : r.text? a = none := by simp [text?, unset]
      simp only [finding]
      cases registry.kind a with
      | text => simpa [textless] using Finding.blank_prose_nil
      | keyword => simpa [textless] using Finding.blank_nothing
      | date => simpa [unset] using Finding.blank_nothing

theorem Record.blank_finding {a : Attribute} (lacking : r.value a = none) :
    (r.finding registry a).Blank := by
  have unset : r.valueNamed a.name = none := by
    rw [valueNamed, a.ofName?_name, Option.bind_some, lacking]
  have blank : (r.findingNamed registry a.name).Blank := blank_findingNamed unset
  rwa [findingNamed, a.ofName?_name] at blank

theorem Finding.Blank.holds_iff (blank : found.Blank) {p : Predicate} :
    p.Holds found ↔ p = .isNull ∨ ∃ v, p = .compare .notEq v := by
  cases p with
  | compare op v => cases op <;> simp [Predicate.Holds, blank.different, blank.outside]
  | like pattern ignoreCase => simp [Predicate.Holds, blank.unlike]
  | oneOf values => simp [Predicate.Holds, blank.different]
  | isNull => simp [Predicate.Holds, blank.absent]
  | between | before | after | during => simp [Predicate.Holds, blank.outside]

end Lacking

theorem Filter.isMeaning_holds (registry : Registry) (r : Record) :
    IsMeaning r (Holds registry r) where
  everything := by simp [Holds]
  nothing := by simp [Holds]
  all fs := by rw [Holds, everyHolds_iff]
  any fs := by rw [Holds, someHolds_iff]
  not f := by rw [Holds]
  notEq name v := by simp [Holds, Predicate.Holds]
  oneOf name values := by simp [Holds, Predicate.Holds]
  lacking name p lacks := by rw [Holds, (Record.blank_findingNamed lacks).holds_iff]

end RecordSearch
