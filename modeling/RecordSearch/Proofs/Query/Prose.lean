import RecordSearch.Proofs.Pattern.Glob
import RecordSearch.Proofs.Query.Presence

/-!
# LIKE patterns on prose

The words of a pattern are put together again from the words that an index finds in it and the gaps
between them.  As long as no word is left out, they are what stands between signs that are no
letter, digit or `%`, and each of them stands for words of a text.
-/

namespace RecordSearch

open RecordSearch.Text

namespace Query

open Pattern (Alike ofGlob)

variable {leading : Bool} {current tokens : List Token} {t : Token}
  {word run percents gap text tail : List Char}

def Percents (percents : List Char) : Prop := ∀ c ∈ percents, c = '%'

section Gaps

theorem exists_leading (blank : Blank gap) :
    ∃ percents others, gap = percents ++ others ∧ Percents percents ∧
      (∀ c ∈ others.head?, isGlobSign c = false) ∧
        (gap.head? == some '%') = !percents.isEmpty := by
  induction gap with
  | nil => exact ⟨[], [], rfl, List.forall_mem_nil _, nofun, rfl⟩
  | cons c gap inductionHypothesis =>
      obtain ⟨-, later⟩ := List.forall_mem_cons.mp blank
      by_cases many : c = '%'
      · subst many
        obtain ⟨percents, others, rfl, percents', apart, -⟩ := inductionHypothesis later
        exact ⟨'%' :: percents, others, rfl, List.forall_mem_cons.mpr ⟨rfl, percents'⟩, apart, rfl⟩
      · refine ⟨[], c :: gap, rfl, List.forall_mem_nil _, ?_, by simpa using many⟩
        rintro d ⟨⟩
        exact blank.isGlobSign_eq_false List.mem_cons_self many

theorem exists_trailing (blank : Blank gap) :
    ∃ others percents, gap = others ++ percents ∧ Percents percents ∧
      (∀ c ∈ others.getLast?, isGlobSign c = false) ∧
        (gap.getLast? == some '%') = !percents.isEmpty := by
  have reversed : Blank gap.reverse := fun c member => blank c (List.mem_reverse.mp member)
  obtain ⟨percents, others, same, percents', apart, first⟩ := exists_leading reversed
  refine ⟨others.reverse, percents.reverse, ?_, ?_, ?_, ?_⟩
  · rw [← List.reverse_append, ← same, List.reverse_reverse]
  · exact fun c member => percents' c (List.mem_reverse.mp member)
  · rwa [List.getLast?_reverse]
  · rwa [List.head?_reverse, ← List.isEmpty_reverse] at first

/-- In a gap that is no joint, something else stands between the `%` on its two sides. -/
theorem exists_apart (blank : Blank gap) (filled : gap ≠ []) (apart : isJoint gap = false) :
    ∃ before others behind, gap = before ++ (others ++ behind) ∧ Percents before ∧
      Percents behind ∧ others ≠ [] ∧ (∀ c ∈ others.head?, isGlobSign c = false) ∧
        (∀ c ∈ others.getLast?, isGlobSign c = false) ∧
          (gap.head? == some '%') = !before.isEmpty ∧
            (gap.getLast? == some '%') = !behind.isEmpty := by
  obtain ⟨before, rest, rfl, percents, first, opened⟩ := exists_leading blank
  have blank' : Blank rest := fun c member => blank c (List.mem_append_right before member)
  obtain ⟨others, behind, rfl, percents', last, closed⟩ := exists_trailing blank'
  have between : others ≠ [] := by
    rintro rfl
    cases behind with
    | nil =>
        rw [List.append_nil, List.append_nil] at filled apart
        have joint : isJoint before = true := by
          rw [isJoint, Bool.and_eq_true, List.all_eq_true]
          exact ⟨by simpa using filled, fun c member => beq_iff_eq.mpr (percents c member)⟩
        rw [joint] at apart
        cases apart
    | cons c behind =>
        have sign := first c rfl
        rw [percents' c List.mem_cons_self] at sign
        exact absurd sign (by decide)
  refine ⟨before, others, behind, rfl, percents, percents', between, ?_, last, opened, ?_⟩
  · rwa [List.head?_append_of_ne_nil others between] at first
  · rwa [List.getLast?_append_of_ne_nil before (List.append_ne_nil_of_left_ne_nil between behind)]

end Gaps

section Clusters

theorem joinWords_concat (filled : tokens ≠ []) :
    Cluster.joinWords (tokens ++ [t]) =
      Cluster.joinWords tokens ++ .run :: Pattern.ofWord t.word := by
  induction tokens with
  | nil => exact absurd rfl filled
  | cons first tokens inductionHypothesis =>
      cases tokens with
      | nil => rfl
      | cons second tokens =>
          have step (tokens : List Token) : Cluster.joinWords (first :: second :: tokens) =
              Pattern.ofWord first.word ++ .run :: Cluster.joinWords (second :: tokens) := rfl
          have later := inductionHypothesis (List.cons_ne_nil second tokens)
          rw [List.cons_append, List.cons_append, step, ← List.cons_append, later, step,
            List.append_assoc]
          rfl

theorem flatMap_words_clusters :
    (clusters leading current tail tokens).flatMap Cluster.words = current.reverse ++ tokens := by
  induction tokens generalizing leading current with
  | nil => cases current <;> simp [clusters]
  | cons t tokens inductionHypothesis =>
      rw [clusters]
      split
      · next none =>
          rw [inductionHypothesis, List.isEmpty_iff.mp none]
          rfl
      · split
        · rw [inductionHypothesis, List.reverse_cons, List.append_assoc]
          rfl
        · rw [List.flatMap_cons, inductionHypothesis]
          rfl

theorem Cluster.plain?_eq_some_iff {c : Cluster} :
    c.plain? = some t ↔ c.words = [t] ∧ c.open' = false ∧ c.close' = false := by
  obtain ⟨opened, words, closed⟩ := c
  rcases words with - | ⟨t', - | ⟨second, others⟩⟩
  · simp [plain?]
  · simp [plain?, and_comm, and_assoc]
  · simp [plain?]

/-- A cluster stands for the words that a word of a pattern does, and is a plain word if there is
no `%` in that. -/
structure Cluster.Fits (c : Cluster) (word : List Char) : Prop where
  alike : Alike c.pattern (ofGlob word)
  plain : c.plain?.isSome = true ↔ '%' ∉ word

/-- The words of a cluster that is under way come from the signs of a word so far. -/
structure Gathers (leading : Bool) (current : List Token) (word : List Char) : Prop where
  filled : current ≠ []
  alike : Alike ((if leading then [.run] else []) ++ Cluster.joinWords current.reverse)
    (ofGlob word)
  plain : (leading = false ∧ ∃ t, current = [t]) ↔ '%' ∉ word
  signs : ∀ c ∈ word, isGlobSign c = true
  letter : word.any isAlphanumeric = true

namespace Percents

theorem alike (percents' : Percents percents) :
    Alike (if !percents.isEmpty then [.run] else []) (ofGlob percents) := by
  cases percents with
  | nil => exact .refl []
  | cons c percents =>
      intro s
      exact (Pattern.alike_ofGlob_percents (List.cons_ne_nil c percents) percents' s).symm

theorem not_mem_iff (percents' : Percents percents) :
    '%' ∉ percents ↔ percents.isEmpty = true := by
  cases percents with
  | nil => simp
  | cons c percents => simp [percents' c List.mem_cons_self]

theorem signs (percents' : Percents percents) : ∀ c ∈ percents, isGlobSign c = true := by
  intro c member
  rw [percents' c member]
  decide

end Percents

section Letters

variable (spells : t.Spells run)
include spells

theorem percent_not_mem : '%' ∉ run := by
  intro member
  exact absurd (spells.letters '%' member) (by decide)

theorem isGlobSign_of_mem : ∀ c ∈ run, isGlobSign c = true := by
  intro c member
  rw [isGlobSign, spells.letters c member, Bool.true_or]

theorem any_isAlphanumeric : run.any isAlphanumeric = true := by
  obtain ⟨c, member⟩ := List.exists_mem_of_ne_nil run spells.filled
  exact List.any_eq_true.mpr ⟨c, member, spells.letters c member⟩

theorem alike_ofWord : Alike (Pattern.ofWord t.word) (ofGlob run) := by
  rw [Pattern.ofGlob_of_plain (percent_not_mem spells), spells.word]
  exact .refl _

end Letters

namespace Gathers

/-- A cluster begins with a word and the `%` before it. -/
theorem start (spells : t.Spells run) (percents' : Percents percents) :
    Gathers (!percents.isEmpty) [t] (percents ++ run) where
  filled := List.cons_ne_nil t []
  alike := by
    rw [Pattern.ofGlob_append]
    exact percents'.alike.append (alike_ofWord spells)
  plain := by
    rw [List.mem_append, not_or, percents'.not_mem_iff, Bool.not_eq_false']
    exact and_congr_right fun _ => iff_of_true ⟨t, rfl⟩ (percent_not_mem spells)
  signs := List.forall_mem_append.mpr ⟨percents'.signs, isGlobSign_of_mem spells⟩
  letter := by rw [List.any_append, any_isAlphanumeric spells, Bool.or_true]

/-- One more word belongs to a cluster if there are only `%` before it. -/
theorem join (gathers : Gathers leading current word) (spells : t.Spells run)
    (percents' : Percents percents) (between : percents ≠ []) :
    Gathers leading (t :: current) (word ++ (percents ++ run)) where
  filled := List.cons_ne_nil t current
  alike := by
    have reversed : current.reverse ≠ [] := List.reverse_ne_nil_iff.mpr gathers.filled
    have joint : Alike ([.run] ++ Pattern.ofWord t.word) (ofGlob percents ++ ofGlob run) := by
      have opened := percents'.alike
      rw [List.isEmpty_eq_false_iff.mpr between] at opened
      exact opened.append (alike_ofWord spells)
    rw [List.reverse_cons, joinWords_concat reversed, ← List.append_assoc, Pattern.ofGlob_append,
      Pattern.ofGlob_append]
    exact gathers.alike.append joint
  plain := by
    refine iff_of_false ?_ ?_
    · rintro ⟨-, t', single⟩
      exact gathers.filled (List.tail_eq_of_cons_eq single)
    · intro plain
      have none := percents'.not_mem_iff.mp fun member =>
        plain (List.mem_append_right word (List.mem_append_left run member))
      exact between (List.isEmpty_iff.mp none)
  signs := List.forall_mem_append.mpr ⟨gathers.signs,
    List.forall_mem_append.mpr ⟨percents'.signs, isGlobSign_of_mem spells⟩⟩
  letter := by rw [List.any_append, gathers.letter, Bool.true_or]

/-- A cluster ends with the `%` behind its last word. -/
theorem close (gathers : Gathers leading current word) (percents' : Percents percents) :
    Cluster.Fits ⟨leading, current.reverse, !percents.isEmpty⟩ (word ++ percents) where
  alike := by
    rw [Pattern.ofGlob_append]
    exact gathers.alike.append percents'.alike
  plain := by
    rw [List.mem_append, not_or, percents'.not_mem_iff, ← gathers.plain, Option.isSome_iff_exists]
    simp only [Cluster.plain?_eq_some_iff, List.reverse_eq_cons_iff, List.reverse_nil,
      List.nil_append, Bool.not_eq_false']
    constructor
    · rintro ⟨t, single, opened, closed⟩
      exact ⟨⟨opened, t, single⟩, closed⟩
    · rintro ⟨⟨opened, t, single⟩, closed⟩
      exact ⟨t, single, opened, closed⟩

theorem globs_append {rest : List Char} (gathers : Gathers leading current word)
    (percents' : Percents percents) (apart : ∀ c ∈ rest.head?, isGlobSign c = false) :
    globs (word ++ (percents ++ rest)) = (word ++ percents) :: globs rest := by
  have signs := List.forall_mem_append.mpr ⟨gathers.signs, percents'.signs⟩
  have letter : (word ++ percents).any isAlphanumeric = true := by
    rw [List.any_append, gathers.letter, Bool.true_or]
  rw [← List.append_assoc, globs_word_append signs letter apart]

end Gathers

end Clusters

section Words

/-- From a word on, the clusters stand for what the words do. -/
theorem forall₂_clusters (laidOut : LaidOut text tokens tail)
    (apart : ∀ c ∈ text.head?, isAlphanumeric c = false)
    (gathers : Gathers leading current word) :
    List.Forall₂ Cluster.Fits (clusters leading current tail tokens) (globs (word ++ text)) := by
  induction laidOut generalizing leading current word with
  | tail blank =>
      have under := List.isEmpty_eq_false_iff.mpr gathers.filled
      obtain ⟨percents, others, rfl, percents', apart', closed⟩ := exists_leading blank
      have rest : Blank others := fun c member => blank c (List.mem_append_right percents member)
      rw [clusters, if_neg (ne_true_of_eq_false under), closed,
        gathers.globs_append percents' apart', globs_of_blank rest]
      exact .cons (gathers.close percents') .nil
  | @word t run rest tail tokens blank spells next laidOut inductionHypothesis =>
      have under := List.isEmpty_eq_false_iff.mpr gathers.filled
      have between : t.gap ≠ [] := by
        intro none
        obtain ⟨c, run, rfl⟩ := List.exists_cons_of_ne_nil spells.filled
        rw [none] at apart
        have letter := spells.letters c List.mem_cons_self
        rw [apart c rfl] at letter
        cases letter
      rw [clusters, if_neg (ne_true_of_eq_false under)]
      by_cases joint : isJoint t.gap = true
      · -- The next word belongs to the cluster that is under way.
        have percents' : Percents t.gap := by
          rw [isJoint, Bool.and_eq_true, List.all_eq_true] at joint
          exact fun c member => beq_iff_eq.mp (joint.2 c member)
        have later := inductionHypothesis next (gathers.join spells percents' between)
        rw [if_pos joint]
        simpa only [List.append_assoc] using later
      · -- The cluster ends, and each side of the gap gives its `%` to the word it touches.
        obtain ⟨before, others, behind, same, percents', percents'', filled, first, last, closed,
          opened⟩ := exists_apart blank between (Bool.eq_false_iff.mpr joint)
        have later := inductionHypothesis next (.start spells percents'')
        have blank' : Blank others := fun c member =>
          blank c (same ▸ List.mem_append_right before (List.mem_append_left behind member))
        have first' : ∀ c ∈ (others ++ (behind ++ (run ++ rest))).head?, isGlobSign c = false := by
          rwa [List.head?_append_of_ne_nil others filled]
        rw [if_neg joint, closed, opened, same, List.append_assoc, List.append_assoc,
          gathers.globs_append percents' first', globs_blank_append blank' last,
          ← List.append_assoc]
        exact .cons (gathers.close percents') later

theorem forall₂_clusters_of_laidOut (laidOut : LaidOut text tokens tail) :
    List.Forall₂ Cluster.Fits (clusters false [] tail tokens) (globs text) := by
  cases laidOut with
  | tail blank =>
      rw [clusters, globs_of_blank blank]
      exact .nil
  | @word t run rest tail tokens blank spells next laidOut =>
      obtain ⟨others, percents, same, percents', last, opened⟩ := exists_trailing blank
      have later := forall₂_clusters laidOut next (.start spells percents')
      have blank' : Blank others := fun c member =>
        blank c (same ▸ List.mem_append_left percents member)
      rw [clusters, List.isEmpty_nil, if_pos rfl, opened, same, List.append_assoc,
        globs_blank_append blank' last, ← List.append_assoc]
      exact later

variable {l : List Cluster} {pattern : String} {a : Attribute}

theorem fits_clustersOf
    (short : ∀ run ∈ wordRuns pattern.toList, (String.ofList run).utf8ByteSize < longWord) :
    List.Forall₂ Cluster.Fits (clustersOf pattern) (globs pattern.toList) :=
  forall₂_clusters_of_laidOut (laidOut_of short)

theorem mapM_plain?_of_forall (each : ∀ c ∈ l, c.plain?.isSome = true) :
    l.mapM Cluster.plain? = some (l.flatMap Cluster.words) := by
  induction l with
  | nil => rfl
  | cons c l inductionHypothesis =>
      obtain ⟨first, others⟩ := List.forall_mem_cons.mp each
      obtain ⟨t, plain⟩ := Option.isSome_iff_exists.mp first
      rw [List.mapM_cons, plain, inductionHypothesis others, List.flatMap_cons,
        (Cluster.plain?_eq_some_iff.mp plain).1]
      rfl

theorem forall_mem_iff_of_forall₂ {α β : Type} {R : α → β → Prop} {P : α → Prop} {Q : β → Prop}
    {l : List α} {l' : List β} (each : List.Forall₂ R l l')
    (same : ∀ a b, R a b → (P a ↔ Q b)) : (∀ a ∈ l, P a) ↔ ∀ b ∈ l', Q b := by
  induction each with
  | nil => exact iff_of_true (List.forall_mem_nil _) (List.forall_mem_nil _)
  | cons first _ inductionHypothesis =>
      rw [List.forall_mem_cons, List.forall_mem_cons, same _ _ first, inductionHypothesis]

section Fits

variable (fits : List.Forall₂ Cluster.Fits (clustersOf pattern) (globs pattern.toList))
include fits

theorem plain_clustersOf_iff :
    (∀ c ∈ clustersOf pattern, c.plain?.isSome = true) ↔ ∀ w ∈ globs pattern.toList, '%' ∉ w :=
  forall_mem_iff_of_forall₂ fits fun _ _ fits => fits.plain

theorem mapM_plain?_clustersOf (plain : ∀ w ∈ globs pattern.toList, '%' ∉ w) :
    (clustersOf pattern).mapM Cluster.plain? = some (Analysis.of pattern.toList).tokens := by
  rw [mapM_plain?_of_forall ((plain_clustersOf_iff fits).mpr plain), clustersOf,
    flatMap_words_clusters]
  rfl

theorem mapM_plain?_clustersOf_eq_none (some' : ∃ w ∈ globs pattern.toList, '%' ∈ w) :
    (clustersOf pattern).mapM Cluster.plain? = none := by
  rw [Option.eq_none_iff_forall_ne_some]
  intro tokens mapped
  obtain ⟨w, word, many⟩ := some'
  exact (plain_clustersOf_iff fits).mp (isSome_plain?_of_mapM mapped) w word many

theorem ofProsePattern_of_words (plain : ∀ w ∈ globs pattern.toList, '%' ∉ w) :
    ofProsePattern a pattern = ofValue .text a (.text pattern) := by
  have found := mapM_plain?_clustersOf fits plain
  rw [clustersOf] at found
  simp only [ofProsePattern, found]
  rfl

theorem tokens_of_wordless (none : globs pattern.toList = []) :
    (Analysis.of pattern.toList).tokens = [] := by
  rw [none, List.forall₂_nil_right_iff] at fits
  have whole : (clustersOf pattern).flatMap Cluster.words = (Analysis.of pattern.toList).tokens :=
    flatMap_words_clusters
  rw [fits] at whole
  exact whole.symm

end Fits

theorem ofFilter_like_prose {registry : Registry} (kind : registry.kind a = .text)
    (ignoreCase : Bool) :
    ofFilter registry (.test a.name (.like pattern ignoreCase)) = ofProsePattern a pattern := by
  rw [ofFilter_test, kind]
  rfl

end Words

end Query

section Findings

variable {registry : Registry} {a : Attribute} {r : Record} {pattern : String} {ignoreCase : Bool}
  {words : List (Nat × String)}
  (fits : List.Forall₂ Query.Cluster.Fits (Query.clustersOf pattern) (globs pattern.toList))
include fits

/-- With `%` in its words, a pattern resembles a text of which each of its words stands for some. -/
theorem Finding.resembles_prose_iff (some' : ∃ w ∈ globs pattern.toList, '%' ∈ w)
    (oneLine : ∀ t ∈ words, '\n' ∉ t.2.toList) :
    (prose words).Resembles pattern ignoreCase ↔
      ∀ w ∈ globs pattern.toList, ∃ t ∈ words, Glob w t.2.toList := by
  simp only [Resembles, Query.mapM_plain?_clustersOf_eq_none fits some']
  refine Query.forall_mem_iff_of_forall₂ fits fun c w fits => ?_
  refine exists_congr fun t => and_congr_right fun member => ?_
  rw [fits.alike, Pattern.matches_ofGlob_iff (oneLine t member)]

theorem Filter.holds_like_prose_iff (kind : registry.kind a = .text)
    (some' : ∃ w ∈ globs pattern.toList, '%' ∈ w) :
    (test a.name (.like pattern ignoreCase)).Holds registry r ↔
      ∃ v, r.text? a = some v ∧ ∀ w ∈ globs pattern.toList,
        ∃ t ∈ (Analysis.of v.toList).tokens, Glob w t.word.toList := by
  rw [holds_test_iff, Predicate.Holds]
  simp only [Record.finding, kind]
  cases r.text? a with
  | none =>
      refine iff_of_false Finding.not_resembles_nil ?_
      rintro ⟨v, held, -⟩
      cases held
  | some v =>
      rw [Option.elim_some, Finding.resembles_prose_iff fits some']
      · simp [Kind.terms]
      · exact List.forall_mem_map.mpr fun t => lineFeed_not_mem_word

theorem Filter.holds_eq_iff_of_wordless (kind : registry.kind a = .text)
    (none : globs pattern.toList = []) :
    (test a.name (.compare .eq (.text pattern))).Holds registry r ↔
      (r.finding registry a).Present := by
  have wordless : Kind.text.terms pattern = [] := by
    rw [Kind.terms, Query.tokens_of_wordless fits none]
    rfl
  rw [holds_test_iff, Predicate.Holds]
  simp [Record.finding, kind, Finding.Equals, Finding.Present, Literal.asText, wordless, Mentions]

end Findings

namespace Store

variable {registry : Registry} {s : Store} {contents : List Record} {a : Attribute}
  {pattern : String} {ignoreCase : Bool} {q : Query}

/-- As long as a pattern has no long word, it finds the texts of which each of its words stands for
some kept word.  If there is no `%` in its words, it finds what is equal to it, and without words
whatever is found to have a value.  Case makes no difference. -/
theorem selects_prose_pattern (populated : Populated registry s contents)
    (kind : registry.kind a = .text)
    (short : ∀ run ∈ wordRuns pattern.toList, (String.ofList run).utf8ByteSize < longWord)
    (compiled : Query.ofFilter registry (.test a.name (.like pattern ignoreCase)) = .ok q) :
    ∃ hits, (∀ ignoreCase, Finds registry s (.test a.name (.like pattern ignoreCase)) hits) ∧
      ((∃ w ∈ globs pattern.toList, '%' ∈ w) →
        ∀ r, r ∈ hits ↔ r ∈ contents ∧ ∃ v, r.text? a = some v ∧ ∀ w ∈ globs pattern.toList,
          ∃ t ∈ (Analysis.of v.toList).tokens, Glob w t.word.toList) ∧
      ((∀ w ∈ globs pattern.toList, '%' ∉ w) →
        Finds registry s (.test a.name (.compare .eq (.text pattern))) hits) ∧
      (globs pattern.toList = [] →
        ∃ present, Finds registry s (.not (.test a.name .isNull)) present ∧
          ∀ r, r ∈ hits ↔ r ∈ present) := by
  obtain ⟨hits, ⟨q', compiled', found⟩, -⟩ := populated.selects (.test _ _) compiled
  obtain rfl := Except.ok.inj (compiled.symm.trans compiled')
  have among {r : Record} := populated.mem_hits_iff (r := r) (.test _ _) compiled found
  have fits := Query.fits_clustersOf short
  rw [Query.ofFilter_like_prose kind] at compiled
  have equal (plain : ∀ w ∈ globs pattern.toList, '%' ∉ w) :
      Query.ofFilter registry (.test a.name (.compare .eq (.text pattern))) = .ok q := by
    rw [Query.ofFilter_test, kind, ← compiled, Query.ofProsePattern_of_words fits plain]
    rfl
  refine ⟨hits, fun ignoreCase => ⟨q, ?_, found⟩, fun some' r => ?_, fun plain => ?_,
    fun none => ?_⟩
  · rw [Query.ofFilter_like_prose kind, compiled]
  · rw [among, Filter.holds_like_prose_iff fits kind some']
  · exact ⟨q, equal plain, found⟩
  · have plain : ∀ w ∈ globs pattern.toList, '%' ∉ w := by
      rw [none]
      exact List.forall_mem_nil _
    obtain ⟨present, finds, among'⟩ := populated.selects_not_isNull a
    refine ⟨present, finds, fun r => ?_⟩
    rw [among', populated.mem_hits_iff (.test _ _) (equal plain) found,
      Filter.holds_eq_iff_of_wordless fits kind none]

/-- Words of a pattern stand in a text in any order and case. -/
theorem selects_prose_pattern_crossed :
    ∃ hits, Finds Registry.standard
      (Operation.trace Operation.run
        [.save { id := "a", contents := some "Relational databases" }, .save { id := "b" }]
        (inMemory Registry.standard)).2
      (.test "contents" (.like "DATA%s, %tional" false)) hits ∧
        { id := "a", contents := some "Relational databases" } ∈ hits := by
  have first : Record.Built Registry.standard
      { id := "a", contents := some "Relational databases" } :=
    ⟨"a", [.text "contents" "Relational databases"], by decide⟩
  have second : Record.Built Registry.standard { id := "b" } := ⟨"b", [], by decide⟩
  have populated := populated_of_saves
    [{ id := "a", contents := some "Relational databases" }, { id := "b" }]
    (List.forall_mem_cons.mpr ⟨first, List.forall_mem_singleton.mpr second⟩) (by rfl)
  have kind : Registry.standard.kind .contents = .text := rfl
  have small : (Query.ofProsePattern .contents "DATA%s, %tional").isOk = true := by decide +kernel
  obtain ⟨q, compiled⟩ : ∃ q, Query.ofFilter Registry.standard
      (.test Attribute.contents.name (.like "DATA%s, %tional" false)) = .ok q := by
    rw [Query.ofFilter_like_prose kind]
    cases made : Query.ofProsePattern .contents "DATA%s, %tional" with
    | error fault =>
        rw [made] at small
        cases small
    | ok q => exact ⟨q, rfl⟩
  have short : (wordRuns "DATA%s, %tional".toList).all
      (fun run => decide ((String.ofList run).utf8ByteSize < longWord)) = true := by decide +kernel
  obtain ⟨hits, finds, among, -⟩ := selects_prose_pattern (a := .contents) populated kind
    (fun run member => of_decide_eq_true (List.all_eq_true.mp short run member)) compiled
  have words : globs "DATA%s, %tional".toList = ["DATA%s".toList, "%tional".toList] := by
    decide +kernel
  have data : Glob "DATA%s".toList "databases".toList :=
    (Pattern.matches_ofGlob_iff (by decide)).mp (Pattern.accepts_iff.mp (by decide +kernel))
  have tional : Glob "%tional".toList "relational".toList :=
    (Pattern.matches_ofGlob_iff (by decide)).mp (Pattern.accepts_iff.mp (by decide +kernel))
  refine ⟨hits, finds false, (among ?_ _).mpr ⟨List.mem_cons_self, _, rfl, ?_⟩⟩
  · rw [words]
    exact ⟨_, List.mem_cons_self, by decide⟩
  · rw [words]
    refine List.forall_mem_cons.mpr ⟨⟨⟨"databases", 1, [' ']⟩, ?_, data⟩,
      List.forall_mem_singleton.mpr ⟨⟨"relational", 0, []⟩, ?_, tional⟩⟩
    · decide +kernel
    · decide +kernel

end Store

end RecordSearch
