import RecordSearch.Proofs.Store.Search
import RecordSearch.Proofs.Text.Words

/-!
# Any phrase of an indexed text finds its record

A text is found by each of its excerpts: parts that neither begin nor end within a word.  What
stands in quotes is read back as it was meant, words that are too long are passed over on both
sides, and the places of all other words differ by the number of words before the excerpt.
-/

namespace RecordSearch

open RecordSearch.Text

namespace Query

variable {a : Attribute} {tokens : List Token} {tail : List Char}

/-- A word that no `%` touches. -/
def Cluster.alone (t : Token) : Cluster := ⟨false, [t], false⟩

theorem clusters_of_plain (first : Token) (gaps : ∀ t ∈ tokens, '%' ∉ t.gap) (last : '%' ∉ tail) :
    clusters false [first] tail tokens = (first :: tokens).map Cluster.alone := by
  have closed : (tail.head? == some '%') = false :=
    beq_false_of_ne fun same => last (List.mem_of_mem_head? same)
  induction tokens generalizing first with
  | nil =>
      rw [clusters, closed]
      rfl
  | cons t tokens inductionHypothesis =>
      have gap : '%' ∉ t.gap := gaps t List.mem_cons_self
      have before : (t.gap.getLast? == some '%') = false :=
        beq_false_of_ne fun same => gap (List.mem_of_mem_getLast? same)
      have behind : (t.gap.head? == some '%') = false :=
        beq_false_of_ne fun same => gap (List.mem_of_mem_head? same)
      have apart : isJoint t.gap = false := by
        cases stretch : t.gap with
        | nil => rfl
        | cons c others =>
            have other : c ≠ '%' := by
              rintro rfl
              exact gap (stretch ▸ List.mem_cons_self)
            simp [isJoint, other]
      have later := inductionHypothesis t fun t' member => gaps t' (List.mem_cons_of_mem t member)
      rw [clusters, apart, before, behind, later]
      rfl

theorem ofProsePattern_of_plain {text : String} (plain : '%' ∉ text.toList) :
    ofProsePattern a text = .ok (ofWords a (Kind.text.terms text)) := by
  have other : ∀ c ∈ text.toList, c ≠ '%' := fun c member same => plain (same ▸ member)
  obtain ⟨gaps, last⟩ := gaps_of other
  have gaps' : ∀ t ∈ (Analysis.of text.toList).tokens, '%' ∉ t.gap :=
    fun t member within => gaps t member _ within rfl
  have last' : '%' ∉ (Analysis.of text.toList).tail := fun within => last _ within rfl
  have found : clusters false [] (Analysis.of text.toList).tail (Analysis.of text.toList).tokens =
      (Analysis.of text.toList).tokens.map Cluster.alone := by
    cases tokens : (Analysis.of text.toList).tokens with
    | nil => rfl
    | cons t others =>
        rw [tokens] at gaps'
        have opened : (t.gap.getLast? == some '%') = false := beq_false_of_ne fun same =>
          gaps' t List.mem_cons_self (List.mem_of_mem_getLast? same)
        rw [clusters, List.isEmpty_nil, if_pos rfl, opened]
        exact clusters_of_plain t (fun t' member => gaps' t' (List.mem_cons_of_mem t member)) last'
  have each (tokens : List Token) :
      (tokens.map Cluster.alone).mapM Cluster.plain? = some tokens := by
    induction tokens with
    | nil => rfl
    | cons t tokens inductionHypothesis =>
        rw [List.map_cons, List.mapM_cons, inductionHypothesis]
        rfl
  simp only [ofProsePattern, found, each]
  rfl

end Query

inductive WordTest where
  | equals
  | like
  | caselessLike
  deriving DecidableEq

namespace WordTest

def symbol : WordTest → String
  | equals => " = "
  | like => " LIKE "
  | caselessLike => " ILIKE "

def query (form : WordTest) (a : Attribute) (v : String) : String :=
  a.name ++ form.symbol ++ String.ofList (Quoted.literal v.toList)

def predicate (v : String) : WordTest → Predicate
  | equals => .compare .eq (.text v)
  | like => .like v false
  | caselessLike => .like v true

variable {a : Attribute} {form : WordTest} {v : String}

theorem toList_query : (form.query a v).toList = (Filter.test a.name (form.predicate v)).render := by
  rw [query, String.toList_append, String.toList_append, String.toList_ofList, List.append_assoc]
  cases form <;> rfl

theorem read_query (other : a ≠ .id) :
    Dialect.extended.read (form.query a v) = .ok (.test a.name (form.predicate v)) := by
  apply Dialect.read_of_query
  rw [toList_query]
  apply Grammar.read_query
  apply Filter.Writable.test (a.isAttribute_name fun _ => other)
  cases form with
  | equals => trivial
  | like => exact fun caseless => absurd caseless Bool.false_ne_true
  | caselessLike => exact fun _ => rfl

theorem ofPredicate_predicate (plain : form ≠ .equals → '%' ∉ v.toList) :
    Query.ofPredicate .text a (form.predicate v) =
      .ok (Query.ofWords a (Kind.text.terms v)) := by
  cases form with
  | equals => rfl
  | like => exact Query.ofProsePattern_of_plain (plain nofun)
  | caselessLike => exact Query.ofProsePattern_of_plain (plain nofun)

theorem ofText_query {registry : Registry} (prose : registry.kind a = .text)
    (queryable : registry.queryable a = true) (plain : form ≠ .equals → '%' ∉ v.toList) :
    PreparedQuery.ofText registry (form.query a v) =
      .ok ⟨Query.ofWords a (Kind.text.terms v), .test a.name (form.predicate v), .extended⟩ := by
  have other : a ≠ .id := by
    rintro rfl
    rw [registry.id_keyword] at prose
    cases prose
  apply PreparedQuery.ofText_of_compiled (Dialect.means_extended (read_query other))
  · rintro name ⟨⟩
    exact ⟨a, rfl, queryable⟩
  · rw [Query.ofFilter, Query.ofTest, Attribute.ofName?_name]
    show Query.ofPredicate (registry.kind a) a _ = _
    rw [prose]
    exact ofPredicate_predicate plain

end WordTest

/-- The words of an excerpt, in any case of ASCII letters, stand in the text at their distances. -/
theorem occurs_of_excerpt {part v w : String} (excerpt : Excerpt part.toList w.toList)
    (same : part.toList.map asciiLower = v.toList.map asciiLower) :
    Occurs (Kind.text.terms v) (Kind.text.terms w) := by
  obtain ⟨shift, moved⟩ := excerpt.terms_tokens
  rw [terms_tokens_of_map_asciiLower same] at moved
  refine ⟨shift, fun term member => ⟨_, moved term member, ?_, rfl⟩⟩
  exact Int.natCast_add shift term.1

namespace Store

/-- After any run of a store that was just made, each excerpt of a text under an attribute finds
the records with that text, in whatever case its ASCII letters are written.  A record is found only
if the words stand in its text, all of them moved by one number. -/
theorem records_excerpt {registry : Registry} {a : Attribute} {s : Store}
    {ops : List Operation} (prose : registry.kind a = .text)
    (queryable : registry.queryable a = true) (fresh : Fresh registry s)
    (proper : ∀ op ∈ ops, op.Proper registry) :
    ∃ contents, kept registry (Operation.trace Operation.run ops s).2 = .ok contents ∧
      ∀ (form : WordTest) (v : String), (form ≠ .equals → '%' ∉ v.toList) →
        Kind.text.terms v ≠ [] →
        ∃ hits, Search.records registry repository (form.query a v)
            (Operation.trace Operation.run ops s).2 =
              (.ok hits, (Operation.trace Operation.run ops s).2) ∧
          (∀ r ∈ contents, ∀ w part : String, r.text? a = some w →
            Excerpt part.toList w.toList →
            part.toList.map asciiLower = v.toList.map asciiLower → r ∈ hits) ∧
          ∀ r ∈ hits, r ∈ contents ∧ ∃ w, r.text? a = some w ∧
            Occurs (Kind.text.terms v) (Kind.text.terms w) := by
  obtain ⟨contents, reached, settled⟩ := Operation.trace_fresh fresh proper
  rw [reached]
  refine ⟨contents, kept_keeping settled, fun form v plain filled => ?_⟩
  have found := records_keeping settled (WordTest.ofText_query prose queryable plain)
  refine ⟨_, found, fun r member w part held excerpt same => ?_, fun r member => ?_⟩
  · have terms : r.terms registry a = Kind.text.terms w := by
      simp [Record.terms, Stored.terms, held, prose]
    apply List.mem_filter.mpr
    refine ⟨member, Query.tells_ofWords.matches'_iff.mpr (.inr ⟨filled, ?_⟩)⟩
    rw [terms]
    exact occurs_of_excerpt excerpt same
  · obtain ⟨within, matched⟩ := List.mem_filter.mp member
    refine ⟨within, ?_⟩
    rcases Query.tells_ofWords.matches'_iff.mp matched with ⟨none', -⟩ | ⟨-, occurs⟩
    · exact absurd none' filled
    · cases held : r.text? a with
      | none =>
          -- Nothing occurs where there are no words.
          obtain ⟨shift, each⟩ := occurs
          obtain ⟨term, sought⟩ := List.exists_mem_of_ne_nil _ filled
          obtain ⟨t, stands, -⟩ := each term sought
          simp [Record.terms, Stored.terms, held] at stands
      | some w =>
          refine ⟨w, rfl, ?_⟩
          simpa [Record.terms, Stored.terms, held, prose] using occurs

/-- A phrase with a quote in it, in other letters. -/
theorem records_excerpt_quoted :
    let s := (Operation.trace Operation.run
      [.save { id := "a", contents := some "The quick, brown fox's den" }, .save { id := "b" }]
      (inMemory Registry.standard)).2
    ∃ hits, Search.records Registry.standard repository "contents ILIKE 'BROWN Fox''s'" s =
        (.ok hits, s) ∧
      { id := "a", contents := some "The quick, brown fox's den" } ∈ hits := by
  intro s
  have proper : ∀ op ∈ ([.save { id := "a", contents := some "The quick, brown fox's den" },
      .save { id := "b" }] : List Operation), op.Proper Registry.standard := by
    have first : Record.Built Registry.standard
        { id := "a", contents := some "The quick, brown fox's den" } :=
      ⟨"a", [.text "contents" "The quick, brown fox's den"], by decide⟩
    have second : Record.Built Registry.standard { id := "b" } := ⟨"b", [], by decide⟩
    simp [Operation.Proper, first, second]
  obtain ⟨contents, held, found⟩ := records_excerpt (a := .contents) rfl rfl .memory proper
  have two : contents =
      [{ id := "a", contents := some "The quick, brown fox's den" }, { id := "b" }] :=
    Except.ok.inj (held.symm.trans (by rfl))
  have plain : '%' ∉ "BROWN Fox's".toList := by decide
  obtain ⟨hits, answer, included, -⟩ :=
    found .caselessLike "BROWN Fox's" (fun _ => plain) (by decide)
  refine ⟨hits, answer, ?_⟩
  have excerpt : Excerpt "brown fox's".toList "The quick, brown fox's den".toList := by
    refine ⟨"The quick, ".toList, " den".toList, by decide, ?_, ?_⟩
    · rintro ⟨a, last, -, -, letter, -⟩
      obtain rfl : ' ' = a := by simpa using last
      exact absurd letter (by decide)
    · rintro ⟨-, -, b, first, -, letter⟩
      obtain rfl : ' ' = b := by simpa using first
      exact absurd letter (by decide)
  exact included _ (two ▸ List.mem_cons_self) _ _ rfl excerpt (by decide)

end Store

end RecordSearch
