import RecordSearch.Proofs.Grammar.Predicate

/-!
# Tests that are read as they were written

The alternatives of a dialect are told apart by the word behind the attribute, so that a test is
read by the rule of its predicate and by none that is tried before it.
-/

namespace RecordSearch

open RecordSearch.Grammar RecordSearch.Text
open RecordSearch.Time (Instant)

/-- A name that stands for an attribute in a dialect; the extended one keeps `id` for itself. -/
structure Dialect.IsAttribute (d : Dialect) (name : String) : Prop where
  proper : IsName name.toList
  free : d = .extended → name.toList.map asciiLower ≠ "id".toList

namespace Grammar

variable {rest : List Char}

section Tests

variable {attr : Rule String} {name opening : String} {p : Predicate}

theorem render_test (name : String) (p : Predicate) (rest : List Char) :
    (Filter.test name p).render ++ rest = name.toList ++ ' ' :: (p.render ++ rest) := by
  exact List.append_assoc _ _ _

/-- The attribute of a test is read, and its predicate is left. -/
def Names (attr : Rule String) (name : String) : Prop :=
  ∀ rest, Stops isNameChar rest → attr.read (name.toList ++ rest) = some (name, rest)

theorem Names.read_blank (names : Names attr name) (s : List Char) :
    attr.read (name.toList ++ ' ' :: s) = some (name, ' ' :: s) :=
  names _ (stops_cons.mpr (by decide))

theorem read_negatable (names : Names attr name) (body : Rule (Built Predicate)) :
    (negatable attr body).read (name.toList ++ ' ' :: (p.render ++ rest)) =
      (body.read (p.render ++ rest)).map fun r => (r.1.map (.test name), r.2) := by
  have notNot : (word "not").read (p.render ++ rest) = none :=
    word_predicate rfl (by decide) (opening_ne_not p)
  simp only [negatable, Rule.read_named, Rule.read_bind, names.read_blank, Option.bind_some,
    read_next_blank _ (stops_isSpace_predicate p rest), Rule.read_present_of_none notNot,
    read_next_of_stops _ (stops_isSpace_predicate p rest), Rule.read_pure]
  cases body.read (p.render ++ rest) <;> rfl

theorem nullCheck_eq_none (names : Names attr name) (opens : p.opening = opening)
    (other : opening ≠ "is") :
    (nullCheck attr).read (name.toList ++ ' ' :: (p.render ++ rest)) = none := by
  simp only [nullCheck, Rule.read_named, Rule.read_bind, names.read_blank, Option.bind_some,
    read_next_blank _ (stops_isSpace_predicate p rest), word_predicate opens (by decide) other,
    Option.bind_none]

theorem read_nullCheck (names : Names attr name) (stops : Stops goesOn rest) :
    (nullCheck attr).read (name.toList ++ ' ' :: (Predicate.isNull.render ++ rest)) =
      some (.ok (.test name .isNull), rest) := by
  have first : Spells "IS" "is" := by decide
  have last : Spells "NULL" "null" := by decide
  have letter : Stops isSpace ("IS".toList ++ ' ' :: ("NULL".toList ++ rest)) :=
    stops_cons.mpr (by decide)
  have letter' : Stops isSpace ("NULL".toList ++ rest) := stops_cons.mpr (by decide)
  have notNot : (word "not").read ("NULL".toList ++ rest) = none := by
    refine read_word_eq_none (by decide) ?_
    rw [last.headWord (stops_isNameChar stops)]
    decide
  rw [render_isNull]
  simp only [nullCheck, Rule.read_named, Rule.read_bind, names.read_blank, Option.bind_some,
    read_next_blank _ letter, Rule.read_pure, first.read_blank, read_next_blank _ letter',
    Rule.read_present_of_none notNot, read_next_of_stops _ letter',
    last.read (stops_isNameChar stops)]
  rfl

theorem temporal_eq_none (names : Names attr name) (opens : p.opening = opening)
    (notDuring : opening ≠ "during") (notBefore : opening ≠ "before")
    (notAfter : opening ≠ "after") :
    (temporal attr).read (name.toList ++ ' ' :: (p.render ++ rest)) = none := by
  simp only [temporal, Rule.read_named, Rule.read_bind, names.read_blank, Option.bind_some,
    read_next_blank _ (stops_isSpace_predicate p rest), Rule.read_firstOf_cons,
    Rule.read_firstOf_nil, word_predicate opens (by decide) notDuring,
    word_predicate opens (by decide) notBefore, word_predicate opens (by decide) notAfter,
    Option.bind_none, Option.none_or]

theorem read_during (names : Names attr name) {start stop : Instant} (first : start.IsPlain)
    (last : stop.IsPlain) (ordered : stop.lt start = false) (stops : Stops goesOn rest) :
    (temporal attr).read (name.toList ++ ' ' :: ((Predicate.during start stop).render ++ rest)) =
      some (.ok (.test name (.during start stop)), rest) := by
  have spells : Spells "DURING" "during" := by decide
  have letter := stops_isSpace_predicate (.during start stop) rest
  rw [render_during] at letter ⊢
  simp only [temporal, Rule.read_named, Rule.read_bind, names.read_blank, Option.bind_some,
    read_next_blank _ letter, Rule.read_firstOf_cons, Rule.read_pure, Option.some_or,
    spells.read_blank,
    read_next_blank _ (stops_isSpace_render first _), read_period first last ordered stops]
  rfl

theorem read_before (names : Names attr name) {at' : Instant} (plain : at'.IsPlain)
    (stops : Stops goesOn rest) :
    (temporal attr).read (name.toList ++ ' ' :: ((Predicate.before at').render ++ rest)) =
      some (.ok (.test name (.before at')), rest) := by
  have spells : Spells "BEFORE" "before" := by decide
  have opens : (Predicate.before at').opening = "before" := rfl
  have letter := stops_isSpace_predicate (.before at') rest
  have notDuring : (word "during").read ((Predicate.before at').render ++ rest) = none :=
    word_predicate opens (by decide) (by decide)
  rw [render_before] at letter notDuring ⊢
  simp only [temporal, Rule.read_named, Rule.read_bind, names.read_blank, Option.bind_some,
    read_next_blank _ letter, Rule.read_firstOf_cons, Rule.read_pure, notDuring, Option.bind_none,
    Option.none_or, Option.some_or,
    spells.read_blank,
    read_next_blank _ (stops_isSpace_render plain _), read_date plain stops]
  rfl

theorem read_after (names : Names attr name) {at' : Instant} (plain : at'.IsPlain)
    (stops : Stops goesOn rest) :
    (temporal attr).read (name.toList ++ ' ' :: ((Predicate.after at').render ++ rest)) =
      some (.ok (.test name (.after at')), rest) := by
  have spells : Spells "AFTER" "after" := by decide
  have opens : (Predicate.after at').opening = "after" := rfl
  have letter := stops_isSpace_predicate (.after at') rest
  have notDuring : (word "during").read ((Predicate.after at').render ++ rest) = none :=
    word_predicate opens (by decide) (by decide)
  have notBefore : (word "before").read ((Predicate.after at').render ++ rest) = none :=
    word_predicate opens (by decide) (by decide)
  rw [render_after] at letter notDuring notBefore ⊢
  simp only [temporal, Rule.read_named, Rule.read_bind, names.read_blank, Option.bind_some,
    read_next_blank _ letter, Rule.read_firstOf_cons, Rule.read_pure, notDuring, notBefore,
    Option.bind_none, Option.none_or, Option.some_or,
    spells.read_blank,
    read_next_blank _ (stops_isSpace_render plain _), read_date plain stops]
  rfl

theorem read_comparisonOp (op : Comparison) (s : List Char) :
    comparisonOp.read (op.symbol.toList ++ ' ' :: s) = some (op, ' ' :: s) := by
  cases op <;> rfl

theorem read_comparison (names : Names attr name) (op : Comparison) {value : Literal}
    (writable : value.Writable) (stops : Stops goesOn rest) :
    (comparison attr).read (name.toList ++ ' ' :: ((Predicate.compare op value).render ++ rest)) =
      some (.ok (.test name (.compare op value)), rest) := by
  have symbol := stops_isSpace_predicate (.compare op value) rest
  rw [render_compare] at symbol ⊢
  simp only [comparison, Rule.read_named, Rule.read_bind, names.read_blank, Option.bind_some,
    read_next_blank _ symbol, read_comparisonOp,
    read_next_blank _ (stops_isSpace_literal writable _), read_value writable stops,
    Rule.read_pure]
  rfl

end Tests

section Dialects

variable {d : Dialect} {name : String} {p : Predicate}

theorem attr_names (usable : d.IsAttribute name) : Names d.attr name := by
  intro rest stops
  have text : String.ofList name.toList = name := String.ofList_toList
  cases d with
  | extended =>
      obtain ⟨c, later, form, start, -⟩ := usable.proper.start
      have noQuote : Scan.char '"' (name.toList ++ rest) = none := by
        rw [form]
        refine Scan.char_eq_none ?_
        rintro d ⟨⟩ rfl
        exact absurd start (by decide)
      simp [Dialect.attr, extendedAttribute, quotedAttribute, noQuote,
        bareName_append usable.proper (usable.free rfl) stops, text]
  | classic =>
      simp [Dialect.attr, classicAttribute, plainName_append usable.proper stops, text]

/-- No keyword that a filter may begin with stands where a test begins. -/
theorem word_test (usable : d.IsAttribute name) {w : String} (reserved : w ∈ reservedWords)
    (s : List Char) : (word w).read (name.toList ++ ' ' :: s) = none := by
  refine read_word_eq_none (isWord_of_mem_reservedWords w reserved) ?_
  rw [usable.proper.headWord (stops_cons.mpr (by decide))]
  exact usable.proper.unreserved w reserved

theorem identityIn_eq_none (usable : d.IsAttribute name) (s : List Char) :
    identityIn.read (name.toList ++ ' ' :: s) = none := by
  simp only [identityIn, Rule.read_named, Rule.read_bind,
    word_test usable (show "in" ∈ reservedWords by decide), Option.bind_none]

theorem constant_eq_none (usable : d.IsAttribute name) {w : String} (f : Filter)
    (reserved : w ∈ reservedWords) (s : List Char) :
    (constant w f).read (name.toList ++ ' ' :: s) = none := by
  simp only [constant, Rule.read_bind, word_test usable reserved, Option.bind_none]

/-- A test is read as it is written by the rule of its predicate, and by none before it. -/
theorem read_tests_extended (usable : Dialect.extended.IsAttribute name)
    (writable : p.Writable .extended) (stops : Stops goesOn rest) :
    (Rule.firstOf Dialect.extended.tests).read ((Filter.test name p).render ++ rest) =
      some (.ok (.test name p), rest) := by
  have names : Names extendedAttribute name := attr_names usable
  rw [render_test]
  simp only [Dialect.tests, Rule.read_firstOf_cons, read_negatable names, Option.none_or,
    constant_eq_none usable .everything (show "include" ∈ reservedWords by decide),
    constant_eq_none usable .nothing (show "exclude" ∈ reservedWords by decide),
    identityIn_eq_none usable]
  cases p with
  | compare op value =>
      have opens : (Predicate.compare op value).opening = "" := rfl
      simp (disch := decide) only [between_eq_none opens, nullCheck_eq_none names opens,
        like_eq_none _ opens, inList_eq_none opens, temporal_eq_none names opens,
        read_comparison names op writable stops, Option.map_none, Option.none_or, Option.some_or]
  | like pattern ignoreCase =>
      have opens : (Predicate.like pattern ignoreCase).opening =
        if ignoreCase then "ilike" else "like" := rfl
      have noBetween : (if ignoreCase then "ilike" else "like") ≠ "between" := by
        cases ignoreCase <;> decide
      have noNull : (if ignoreCase then "ilike" else "like") ≠ "is" := by
        cases ignoreCase <;> decide
      simp only [between_eq_none opens noBetween, nullCheck_eq_none names opens noNull,
        read_like (fun _ => rfl) stops, Option.map_none, Option.map_some,
        Option.none_or, Option.some_or]
      rfl
  | oneOf values =>
      have opens : (Predicate.oneOf values).opening = "in" := rfl
      simp (disch := decide) only [between_eq_none opens, nullCheck_eq_none names opens,
        like_eq_none _ opens, read_inList writable.2.1 writable.2.2, Option.map_none,
        Option.map_some, Option.none_or, Option.some_or]
      rfl
  | between lower upper =>
      simp only [read_between writable.1 writable.2 stops, Option.map_some, Option.some_or]
      rfl
  | isNull =>
      have opens : (Predicate.isNull).opening = "is" := rfl
      simp (disch := decide) only [between_eq_none opens, read_nullCheck names stops,
        Option.map_none, Option.none_or, Option.some_or]
  | before at' =>
      have opens : (Predicate.before at').opening = "before" := rfl
      simp (disch := decide) only [between_eq_none opens, nullCheck_eq_none names opens,
        like_eq_none _ opens, inList_eq_none opens, read_before names writable stops,
        Option.map_none, Option.none_or, Option.some_or]
  | after at' =>
      have opens : (Predicate.after at').opening = "after" := rfl
      simp (disch := decide) only [between_eq_none opens, nullCheck_eq_none names opens,
        like_eq_none _ opens, inList_eq_none opens, read_after names writable stops,
        Option.map_none, Option.none_or, Option.some_or]
  | during start stop =>
      have opens : (Predicate.during start stop).opening = "during" := rfl
      simp (disch := decide) only [between_eq_none opens, nullCheck_eq_none names opens,
        like_eq_none _ opens, inList_eq_none opens,
        read_during names writable.1 writable.2.1 writable.2.2 stops, Option.map_none,
        Option.none_or, Option.some_or]

theorem read_tests_classic (usable : Dialect.classic.IsAttribute name)
    (writable : p.Writable .classic) (stops : Stops goesOn rest) :
    (Rule.firstOf Dialect.classic.tests).read ((Filter.test name p).render ++ rest) =
      some (.ok (.test name p), rest) := by
  have names : Names classicAttribute name := attr_names usable
  rw [render_test]
  simp only [Dialect.tests, Rule.read_firstOf_cons, read_negatable names]
  cases p with
  | compare op value =>
      have opens : (Predicate.compare op value).opening = "" := rfl
      simp (disch := decide) only [between_eq_none opens, nullCheck_eq_none names opens,
        like_eq_none _ opens, temporal_eq_none names opens, read_comparison names op writable stops,
        Option.map_none, Option.none_or, Option.some_or]
  | like pattern ignoreCase =>
      cases ignoreCase with
      | true => exact absurd (writable rfl) (by decide)
      | false =>
          have opens : (Predicate.like pattern false).opening = "like" := rfl
          simp (disch := decide) only [between_eq_none opens, nullCheck_eq_none names opens,
            read_like (fun same => same) stops, Option.map_none,
            Option.map_some, Option.none_or, Option.some_or]
          rfl
  | oneOf values => exact absurd writable.1 (by decide)
  | between lower upper =>
      simp only [read_between writable.1 writable.2 stops, Option.map_some, Option.some_or]
      rfl
  | isNull =>
      have opens : (Predicate.isNull).opening = "is" := rfl
      simp (disch := decide) only [between_eq_none opens, read_nullCheck names stops,
        Option.map_none, Option.none_or, Option.some_or]
  | before at' =>
      have opens : (Predicate.before at').opening = "before" := rfl
      simp (disch := decide) only [between_eq_none opens, nullCheck_eq_none names opens,
        like_eq_none _ opens, read_before names writable stops, Option.map_none, Option.none_or,
        Option.some_or]
  | after at' =>
      have opens : (Predicate.after at').opening = "after" := rfl
      simp (disch := decide) only [between_eq_none opens, nullCheck_eq_none names opens,
        like_eq_none _ opens, read_after names writable stops, Option.map_none, Option.none_or,
        Option.some_or]
  | during start stop =>
      have opens : (Predicate.during start stop).opening = "during" := rfl
      simp (disch := decide) only [between_eq_none opens, nullCheck_eq_none names opens,
        like_eq_none _ opens, read_during names writable.1 writable.2.1 writable.2.2 stops,
        Option.map_none, Option.none_or, Option.some_or]

theorem read_tests (usable : d.IsAttribute name) (writable : p.Writable d)
    (stops : Stops goesOn rest) :
    (Rule.firstOf d.tests).read ((Filter.test name p).render ++ rest) =
      some (.ok (.test name p), rest) := by
  cases d with
  | extended => exact read_tests_extended usable writable stops
  | classic => exact read_tests_classic usable writable stops

end Dialects

end Grammar

end RecordSearch
