import RecordSearch.Proofs.Pattern.Expression
import RecordSearch.Proofs.Store.Search

/-!
# LIKE patterns on keywords

What a LIKE pattern means is said sign by sign, without regular expressions.  The text that is made
of the pattern is read with this meaning by every engine that keeps to the syntax of regular
expressions, and a search finds the records whose keyword the pattern stands for in this meaning.
-/

namespace RecordSearch

open Pattern (ofLike likeItem)

/-- What a sign of a LIKE pattern stands for: `%` for any text without a line feed, `_` for any
character but a line feed, and every other sign for itself or, where case is ignored, for both of
its cases. -/
def Like.Sign (ignoreCase : Bool) (sign : Char) (text : List Char) : Prop :=
  if sign = '%' then ∀ c ∈ text, c ≠ '\n'
  else if sign = '_' then ∃ c, text = [c] ∧ c ≠ '\n'
  else if ignoreCase then text = [sign.toLower] ∨ text = [sign.toUpper]
  else text = [sign]

/-- A pattern stands for the values that fall into texts for its signs, one after another. -/
def Like (ignoreCase : Bool) (pattern value : List Char) : Prop :=
  ∃ texts, value = texts.flatten ∧ List.Forall₂ (Like.Sign ignoreCase) pattern texts

namespace Pattern

variable {ignoreCase : Bool} {sign : Char} {text value : List Char} {pattern : String}

/-- Case is ignored for the signs of ASCII only. -/
def Plain (ignoreCase : Bool) (sign : Char) : Prop := ignoreCase = true → sign.toNat < 128

theorem of_ascii {P : Char → Prop} (each : ∀ n < 128, P (Char.ofNat n)) (ascii : sign.toNat < 128) :
    P sign := by
  have entry := each sign.toNat ascii
  rwa [Char.ofNat_toNat] at entry

theorem likeItem_of_case (many : sign ≠ '%') (one : sign ≠ '_') :
    likeItem false sign = .char sign := by
  rw [likeItem, if_neg many, if_neg one]
  rfl

theorem likeItem_of_ascii (ascii : sign.toNat < 128) :
    sign = '%' ∨ sign = '_' ∨ likeItem true sign = .either sign.toLower sign.toUpper ∨
      likeItem true sign = .char sign ∧ sign.toLower = sign ∧ sign.toUpper = sign := by
  revert ascii
  apply of_ascii
  decide +kernel

theorem stands_likeItem_iff (plain : Plain ignoreCase sign) :
    (likeItem ignoreCase sign).piece.Stands text ↔ Like.Sign ignoreCase sign text := by
  rw [Like.Sign]
  by_cases many : sign = '%'
  · rw [if_pos many, likeItem, if_pos many]
    rfl
  by_cases one : sign = '_'
  · rw [if_neg many, if_pos one, likeItem, if_neg many, if_pos one]
    rfl
  rw [if_neg many, if_neg one]
  have itself {c : Char} : (Item.char c).piece.Stands text ↔ text = [c] := by
    constructor
    · rintro ⟨d, rfl, rfl⟩
      rfl
    · rintro rfl
      exact ⟨c, rfl, rfl⟩
  cases ignoreCase with
  | false => rw [likeItem_of_case many one, itself, if_neg Bool.false_ne_true]
  | true =>
      rw [if_pos rfl]
      rcases likeItem_of_ascii (plain rfl) with rfl | rfl | cased | ⟨caseless, lower, upper⟩
      · exact absurd rfl many
      · exact absurd rfl one
      · rw [cased]
        constructor
        · rintro ⟨c, rfl, member⟩
          rcases List.mem_pair.mp member with rfl | rfl
          · exact .inl rfl
          · exact .inr rfl
        · rintro (rfl | rfl)
          · exact ⟨_, rfl, List.mem_pair.mpr (.inl rfl)⟩
          · exact ⟨_, rfl, List.mem_pair.mpr (.inr rfl)⟩
      · rw [caseless, itself, lower, upper, or_self]

theorem stands_ofLike_iff (plain : ∀ c ∈ pattern.toList, Plain ignoreCase c) :
    Expression.Stands ((ofLike ignoreCase pattern).map Item.piece) value ↔
      Like ignoreCase pattern.toList value := by
  -- The signs are known to be plain, so that each may be replaced by its meaning.
  have each (texts : List (List Char)) :
      List.Forall₂ Expression.Piece.Stands ((ofLike ignoreCase pattern).map Item.piece) texts ↔
        List.Forall₂ (Like.Sign ignoreCase) pattern.toList texts := by
    have same : (fun c text => Plain ignoreCase c ∧ (likeItem ignoreCase c).piece.Stands text) =
        fun c text => Plain ignoreCase c ∧ Like.Sign ignoreCase c text := by
      funext c text
      exact propext (and_congr_right stands_likeItem_iff)
    rw [ofLike, List.map_map, List.forall₂_map_left_iff]
    constructor
    · intro stands
      have both := (List.forall₂_and_left _ _).mpr ⟨plain, stands⟩
      exact ((List.forall₂_and_left _ _).mp (same ▸ both)).2
    · intro stands
      have both := (List.forall₂_and_left _ _).mpr ⟨plain, stands⟩
      exact ((List.forall₂_and_left _ _).mp (same.symm ▸ both)).2
  simp only [Expression.Stands, Like, each]

theorem matches_ofLike_iff (plain : ∀ c ∈ pattern.toList, Plain ignoreCase c) :
    Matches (ofLike ignoreCase pattern) value ↔ Like ignoreCase pattern.toList value := by
  rw [matches_iff_stands, stands_ofLike_iff plain]

theorem engine_source_iff {engine : String → List Char → Prop}
    (conforms : Expression.Conforms engine) (plain : ∀ c ∈ pattern.toList, Plain ignoreCase c) :
    engine (ofLike ignoreCase pattern).source value ↔ Like ignoreCase pattern.toList value := by
  rw [conforms _ _ (read_source readable_ofLike), stands_ofLike_iff plain]

end Pattern

variable {registry : Registry} {a : Attribute} {pattern : String} {ignoreCase : Bool} {r : Record}

theorem Filter.holds_like_iff_matches (kind : registry.kind a = .keyword) :
    (test a.name (.like pattern ignoreCase)).Holds registry r ↔
      ∃ v, r.text? a = some v ∧ v.utf8ByteSize ≤ longestKeyword ∧
        Pattern.Matches (ofLike ignoreCase pattern) v.toList := by
  rw [holds_test_iff, Predicate.Holds]
  simp only [Record.finding, kind]
  cases r.text? a with
  | none => simp [Finding.Resembles]
  | some v =>
      by_cases short : v.utf8ByteSize ≤ longestKeyword
      · simp [short, Finding.Resembles]
      · simp [short, Finding.Resembles]

theorem Filter.holds_like_iff (kind : registry.kind a = .keyword)
    (plain : ∀ c ∈ pattern.toList, Pattern.Plain ignoreCase c) :
    (test a.name (.like pattern ignoreCase)).Holds registry r ↔
      ∃ v, r.text? a = some v ∧ v.utf8ByteSize ≤ longestKeyword ∧
        Like ignoreCase pattern.toList v.toList := by
  simp only [holds_like_iff_matches kind, Pattern.matches_ofLike_iff plain]

namespace Store

/-- However a store came to keep its records, a LIKE pattern on a keyword finds those whose keyword
the pattern stands for, and so does every engine that is given the text of the pattern. -/
theorem query_finds_like {q : Query} {engine : String → List Char → Prop}
    (conforms : Expression.Conforms engine) (kind : registry.kind a = .keyword)
    (plain : ignoreCase = true → ∀ c ∈ pattern.toList, c.toNat < 128)
    (compiled : Query.ofFilter registry (.test a.name (.like pattern ignoreCase)) = .ok q)
    {s : Store} {ops : List Operation} (fresh : Fresh registry s)
    (proper : ∀ op ∈ ops, op.Proper registry) :
    (∀ value, engine (ofLike ignoreCase pattern).source value ↔
      Like ignoreCase pattern.toList value) ∧
    ∃ contents hits,
      kept registry (Operation.trace Operation.run ops s).2 = .ok contents ∧
      query q (Operation.trace Operation.run ops s).2 =
        (.ok hits, (Operation.trace Operation.run ops s).2) ∧
      ∀ r, r ∈ hits ↔ r ∈ contents ∧ ∃ v, r.text? a = some v ∧ v.utf8ByteSize ≤ longestKeyword ∧
        Like ignoreCase pattern.toList v.toList := by
  classical
  have plain : ∀ c ∈ pattern.toList, Pattern.Plain ignoreCase c := by
    intro c member ignored
    exact plain ignored c member
  refine ⟨fun value => Pattern.engine_source_iff conforms plain, ?_⟩
  obtain ⟨contents, reached, settled⟩ := Operation.trace_fresh fresh proper
  obtain ⟨hits, found, same⟩ := query_keeping_of_compiled settled (.test _ _) compiled
  rw [reached]
  refine ⟨contents, hits, kept_keeping settled, found, ?_⟩
  intro r
  rw [← Multiset.mem_coe, same, Multiset.mem_filter, Multiset.mem_coe,
    Filter.holds_like_iff kind plain]

/-- A plus sign in a pattern is a plus sign, whatever it means in a regular expression. -/
theorem query_finds_like_plus :
    let s := (Operation.trace Operation.run
      [.save { id := "a", mediaType := some "image/svg+xml" },
        .save { id := "b", mediaType := some "text/xml" }] (inMemory Registry.standard)).2
    ∃ q hits, Query.ofFilter Registry.standard (.test "mediaType" (.like "%+XML" true)) = .ok q ∧
      query q s = (.ok hits, s) ∧
      ∀ r, r ∈ hits ↔ r = { id := "a", mediaType := some "image/svg+xml" } := by
  intro s
  have proper : ∀ op ∈ ([.save { id := "a", mediaType := some "image/svg+xml" },
      .save { id := "b", mediaType := some "text/xml" }] : List Operation),
        op.Proper Registry.standard := by
    have first : Record.Built Registry.standard { id := "a", mediaType := some "image/svg+xml" } :=
      ⟨"a", [.text "mediaType" "image/svg+xml"], by decide⟩
    have second : Record.Built Registry.standard { id := "b", mediaType := some "text/xml" } :=
      ⟨"b", [.text "mediaType" "text/xml"], by decide⟩
    simp [Operation.Proper, first, second]
  have compiled : Query.ofFilter Registry.standard (.test "mediaType" (.like "%+XML" true)) =
      .ok (.pattern .mediaType (ofLike true "%+XML")) := by
    have small : (ofLike true "%+XML").isTooLarge = false := by decide +kernel
    have named : Attribute.ofName? "mediaType" = some .mediaType := rfl
    have kind : Registry.standard.kind .mediaType = .keyword := rfl
    simp only [Query.ofFilter, Query.ofTest, named, Query.ofPredicate, Query.ofLike, kind,
      Query.ofPattern, small]
    rfl
  have conforms : Expression.Conforms fun text value =>
      ∃ e, Expression.read text.toList = some e ∧ e.Stands value := by
    intro text e found value
    constructor
    · rintro ⟨e', found', stands⟩
      rw [found] at found'
      rwa [Option.some.inj found']
    · intro stands
      exact ⟨e, found, stands⟩
  have ascii : ∀ c ∈ "%+XML".toList, c.toNat < 128 := by
    have each : "%+XML".toList.all (fun c => decide (c.toNat < 128)) = true := by decide
    intro c member
    exact of_decide_eq_true (List.all_eq_true.mp each c member)
  have plain : ∀ c ∈ "%+XML".toList, Pattern.Plain true c := by
    intro c member _
    exact ascii c member
  have plus : Like true "%+XML".toList "image/svg+xml".toList :=
    (Pattern.matches_ofLike_iff plain).mp (Pattern.accepts_iff.mp (by decide))
  have slash : ¬ Like true "%+XML".toList "text/xml".toList := by
    intro stands
    have accepted := Pattern.accepts_iff.mpr ((Pattern.matches_ofLike_iff plain).mpr stands)
    exact absurd accepted (by decide)
  obtain ⟨-, contents, hits, held, found, same⟩ := query_finds_like (a := .mediaType) conforms rfl
    (fun _ => ascii) compiled .memory proper
  have two : contents = [{ id := "a", mediaType := some "image/svg+xml" },
      { id := "b", mediaType := some "text/xml" }] :=
    Except.ok.inj (held.symm.trans (by rfl))
  refine ⟨_, hits, compiled, found, ?_⟩
  intro r
  rw [same, two]
  constructor
  · rintro ⟨member, v, has, -, stands⟩
    rcases List.mem_pair.mp member with rfl | rfl
    · rfl
    · obtain rfl : "text/xml" = v := Option.some.inj has
      exact absurd stands slash
  · rintro rfl
    exact ⟨List.mem_cons_self, "image/svg+xml", rfl, by decide, plus⟩

end Store

end RecordSearch
