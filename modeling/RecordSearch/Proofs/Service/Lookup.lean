import RecordSearch.Proofs.Store.Catalog

/-!
# Queries for one identity agree with look-ups

There are three ways to ask for the record with an identity in a query, in either dialect, and each
of them finds what a look-up finds.  Whatever characters an identity has, it is read back from its
quotes as it was meant.
-/

namespace RecordSearch

open RecordSearch.Text

/-- The queries for an identity: with the plain name of the attribute, which only the classic
dialect allows, without a name, and with the name in double quotes. -/
inductive IdentityTest where
  | plain
  | unnamed
  | quoted
  deriving DecidableEq

namespace IdentityTest

def query (x : String) : IdentityTest → String
  | plain => "id = " ++ String.ofList (Quoted.literal x.toList)
  | unnamed => "IN (" ++ String.ofList (Quoted.literal x.toList) ++ ")"
  | quoted => "\"id\" = " ++ String.ofList (Quoted.literal x.toList)

def dialect : IdentityTest → Dialect
  | plain => .classic
  | unnamed => .extended
  | quoted => .extended

def filter (x : String) : IdentityTest → Filter
  | plain => .test "id" (.compare .eq (.text x))
  | unnamed => .test "id" (.oneOf [.text x])
  | quoted => .test "id" (.compare .eq (.text x))

variable {form : IdentityTest} {x : String} {registry : Registry}

theorem toList_append_literal (s x : String) :
    (s ++ String.ofList (Quoted.literal x.toList)).toList = s.toList ++ Quoted.literal x.toList := by
  rw [String.toList_append, String.toList_ofList]

theorem means_plain (x : String) : Dialect.classic.Means (plain.query x) (plain.filter x) := by
  have rendered : (plain.query x).toList = (plain.filter x).render := toList_append_literal _ _
  have text : (plain.filter x).render =
      "id".toList ++ ' ' :: (Predicate.compare .eq (.text x)).render := rfl
  have spells : Grammar.Spells "id" "id" := by decide
  have refused : Dialect.extended.query.read (plain.query x).toList = none := by
    rw [rendered, text]
    apply Grammar.read_query_id
    · exact spells.headWord (stops_cons.mpr (by decide))
    · exact stops_cons.mpr (by decide)
  have writable : (plain.filter x).Writable .classic :=
    .test (Attribute.id.isAttribute_name nofun) trivial
  obtain ⟨line, column, failed⟩ := Dialect.read_of_unfit refused
  exact Dialect.means_classic failed (Dialect.read_of_written writable rendered)

theorem means_unnamed (x : String) : Dialect.extended.Means (unnamed.query x) (unnamed.filter x) := by
  have written : (unnamed.query x).toList = "IN (".toList ++ (Quoted.literal x.toList ++ [')']) := by
    have shut : ")".toList = [')'] := rfl
    rw [query, String.toList_append, toList_append_literal, List.append_assoc, shut]
  have text : unnamed.query x = Dialect.identities [x] :=
    String.toList_injective (written.trans (Dialect.toList_identities [x]).symm)
  rw [text]
  exact Dialect.means_extended (Dialect.read_identities (List.cons_ne_nil x []))

theorem means_quoted (x : String) : Dialect.extended.Means (quoted.query x) (quoted.filter x) := by
  have text : (quoted.query x).toList = '"' :: ("id".toList ++
      '"' :: ' ' :: (Predicate.compare .eq (.text x)).render) := toList_append_literal _ _
  exact Dialect.means_extended (Dialect.read_quoted_comparison (by decide) (by decide) .eq x text)

/-- Each query is read by its dialect, and by none that is tried before. -/
theorem means (form : IdentityTest) (x : String) :
    form.dialect.Means (form.query x) (form.filter x) := by
  cases form with
  | plain => exact means_plain x
  | unnamed => exact means_unnamed x
  | quoted => exact means_quoted x

theorem asks {name : String} (asks : (form.filter x).Asks name) : name = "id" := by
  cases form <;> cases asks <;> rfl

theorem exists_compiled (registry : Registry) (form : IdentityTest) (x : String) :
    ∃ q, Query.ofFilter registry (form.filter x) = .ok q ∧
      ∀ d : Stored, q.matches' registry.kind d =
        (Query.term .id x).matches' registry.kind d := by
  have value : Query.ofValue (registry.kind .id) .id (.text x) = .ok (.term .id x) := by
    rw [registry.id_keyword]
    rfl
  cases form with
  | plain | quoted => exact ⟨_, value, fun d => rfl⟩
  | unnamed =>
      refine ⟨.boolean [] [.term .id x] [], ?_, fun d => ?_⟩
      · show (fun queries => Query.boolean [] queries []) <$>
          [Literal.text x].mapM (Query.ofValue (registry.kind .id) .id) = _
        rw [List.mapM_cons, value]
        rfl
      · simp [Query.matches', Query.everyMatches, Query.someMatches]

end IdentityTest

namespace Store

/-- After any run of a store that was just made, without identities that are too long, the three
queries for an identity find the record that a look-up finds, or nothing if that finds none. -/
theorem queries_agree_with_find {registry : Registry} {s : Store} {ops : List Operation}
    (queryable : registry.queryable .id = true) (fresh : Fresh registry s)
    (proper : ∀ op ∈ ops, op.Proper registry) (short : ∀ op ∈ ops, op.Short) (x : String) :
    ∃ found, find x (Operation.trace Operation.run ops s).2 =
        (.ok found, (Operation.trace Operation.run ops s).2) ∧
      holds x (Operation.trace Operation.run ops s).2 =
        (.ok found.isSome, (Operation.trace Operation.run ops s).2) ∧
      ∀ form : IdentityTest, ∃ prepared,
        PreparedQuery.ofText registry (form.query x) = .ok prepared ∧
        prepared.dialect = form.dialect ∧
        Search.records registry repository (form.query x)
            (Operation.trace Operation.run ops s).2 =
          (.ok found.toList, (Operation.trace Operation.run ops s).2) := by
  obtain ⟨-, contents, reached, lists⟩ :=
    Operation.trace_matches fresh.matches_empty proper short
  rw [reached]
  refine ⟨_, find_keeping lists.settled x, ?_, fun form => ?_⟩
  · have present : contents.any (·.answersTo x) = (contents.find? (·.answersTo x)).isSome := by
      rw [Bool.eq_iff_iff, List.any_eq_true, List.find?_isSome]
    rw [holds_keeping, present]
  · obtain ⟨q, compiled, same⟩ := form.exists_compiled registry x
    have offers (name : String) (asks : (form.filter x).Asks name) : registry.Offers name :=
      ⟨.id, (IdentityTest.asks asks).symm, queryable⟩
    have accepted := PreparedQuery.ofText_of_compiled (form.means x) offers compiled
    refine ⟨_, accepted, rfl, ?_⟩
    have hits : (contents.filter fun r => q.matches' registry.kind (.ofRecord registry r)) =
        contents.filter (·.answersTo x) := by
      apply List.filter_congr
      intro r _
      rw [same]
      exact sees_identity registry contents x r
    rw [records_keeping lists.settled accepted, hits, lists.filter_answersTo]

/-- An identity with a quote and a wildcard sign in it. -/
theorem queries_agree_with_find_quote :
    let s := (Operation.trace Operation.run
      [.save { id := "it's 5%" }, .save { id := "b" }, .delete "b"]
      (inMemory Registry.standard)).2
    Search.records Registry.standard repository "id = 'it''s 5%'" s =
      (.ok [{ id := "it's 5%" }], s) := by
  intro s
  have first : Record.Built Registry.standard { id := "it's 5%" } := ⟨"it's 5%", [], by decide⟩
  have second : Record.Built Registry.standard { id := "b" } := ⟨"b", [], by decide⟩
  have proper : ∀ op ∈ ([.save { id := "it's 5%" }, .save { id := "b" }, .delete "b"] :
      List Operation), op.Proper Registry.standard := by
    simp [Operation.Proper, first, second]
  have short : ∀ op ∈ ([.save { id := "it's 5%" }, .save { id := "b" }, .delete "b"] :
      List Operation), op.Short := by
    have sizes : "it's 5%".utf8ByteSize ≤ longestKeyword ∧ "b".utf8ByteSize ≤ longestKeyword := by
      decide
    simp [Operation.Short, sizes]
  obtain ⟨found, held, -, queries⟩ := queries_agree_with_find rfl .memory proper short "it's 5%"
  have present : found = some { id := "it's 5%" } :=
    Except.ok.inj (congrArg Prod.fst (held.symm.trans (by rfl)))
  obtain ⟨prepared, -, -, answer⟩ := queries .plain
  rw [present] at answer
  exact answer

end Store

end RecordSearch
