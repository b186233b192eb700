import RecordSearch.Proofs.Grammar.Value

/-!
# Predicates that are read as they were written

Every predicate but a comparison begins with a word of its own.  A rule fails where another word
stands, and where its own word stands it reads the whole predicate.
-/

namespace RecordSearch

open RecordSearch.Grammar RecordSearch.Text
open RecordSearch.Time (Instant)

/-- A predicate that a dialect has a form for. -/
def Predicate.Writable (d : Dialect) : Predicate → Prop
  | compare _ value => value.Writable
  | like _ ignoreCase => ignoreCase = true → d = .extended
  | oneOf values => d = .extended ∧ values ≠ [] ∧ ∀ value ∈ values, value.Writable
  | between lower upper => lower.Writable ∧ upper.Writable
  | isNull => True
  | before at' => at'.IsPlain
  | after at' => at'.IsPlain
  | during start stop => start.IsPlain ∧ stop.IsPlain ∧ stop.lt start = false

/-- The word with which the text of a predicate begins, in lower case; a comparison has none. -/
def Predicate.opening : Predicate → String
  | compare _ _ => ""
  | like _ ignoreCase => if ignoreCase then "ilike" else "like"
  | oneOf _ => "in"
  | between _ _ => "between"
  | isNull => "is"
  | before _ => "before"
  | after _ => "after"
  | during _ _ => "during"

namespace Grammar

variable {rest : List Char}

section Forms

/-! The text of a predicate, with its words set apart from the blanks behind them. -/

theorem render_compare (op : Comparison) (value : Literal) (rest : List Char) :
    (Predicate.compare op value).render ++ rest =
      op.symbol.toList ++ ' ' :: (value.render ++ rest) :=
  List.append_assoc _ _ _

theorem render_like (pattern : String) (ignoreCase : Bool) (rest : List Char) :
    (Predicate.like pattern ignoreCase).render ++ rest =
      (if ignoreCase then "ILIKE" else "LIKE").toList ++
        ' ' :: (Quoted.literal pattern.toList ++ rest) := by
  cases ignoreCase <;> rfl

theorem render_oneOf (values : List Literal) (rest : List Char) :
    (Predicate.oneOf values).render ++ rest =
      "IN".toList ++
        ' ' :: '(' :: (joined ", ".toList (values.map Literal.render) ++ ')' :: rest) := by
  show "IN".toList ++ [' ', '('] ++ joined ", ".toList (values.map Literal.render) ++ [')'] ++
    rest = _
  simp only [List.append_assoc, List.cons_append, List.nil_append]

theorem render_between (lower upper : Literal) (rest : List Char) :
    (Predicate.between lower upper).render ++ rest =
      "BETWEEN".toList ++
        ' ' :: (lower.render ++ ' ' :: ("AND".toList ++ ' ' :: (upper.render ++ rest))) := by
  show "BETWEEN".toList ++ [' '] ++ lower.render ++ (' ' :: "AND".toList ++ [' ']) ++
    upper.render ++ rest = _
  simp only [List.append_assoc, List.cons_append, List.nil_append]

theorem render_isNull (rest : List Char) :
    Predicate.isNull.render ++ rest = "IS".toList ++ ' ' :: ("NULL".toList ++ rest) := rfl

theorem render_before (at' : Instant) (rest : List Char) :
    (Predicate.before at').render ++ rest = "BEFORE".toList ++ ' ' :: (at'.render ++ rest) := rfl

theorem render_after (at' : Instant) (rest : List Char) :
    (Predicate.after at').render ++ rest = "AFTER".toList ++ ' ' :: (at'.render ++ rest) := rfl

theorem render_during (start stop : Instant) (rest : List Char) :
    (Predicate.during start stop).render ++ rest =
      "DURING".toList ++ ' ' :: (start.render ++ '/' :: (stop.render ++ rest)) := by
  show "DURING".toList ++ [' '] ++ start.render ++ '/' :: stop.render ++ rest = _
  simp only [List.append_assoc, List.cons_append, List.nil_append]

theorem stops_isSpace_predicate (p : Predicate) (rest : List Char) :
    Stops isSpace (p.render ++ rest) := by
  cases p with
  | compare op value => cases op <;> exact stops_cons.mpr (by decide)
  | like pattern ignoreCase => cases ignoreCase <;> exact stops_cons.mpr (by decide)
  | _ => exact stops_cons.mpr (by decide)

theorem headWord_predicate (p : Predicate) (rest : List Char) :
    headWord (p.render ++ rest) = p.opening.toList := by
  have word {taken w : String} (spells : Spells taken w) (rest : List Char) :
      headWord (taken.toList ++ ' ' :: rest) = w.toList :=
    spells.headWord (stops_cons.mpr (by decide))
  cases p with
  | compare op value => cases op <;> rfl
  | like pattern ignoreCase =>
      rw [render_like]
      cases ignoreCase
      · exact word (show Spells "LIKE" "like" by decide) _
      · exact word (show Spells "ILIKE" "ilike" by decide) _
  | oneOf values =>
      rw [render_oneOf]
      exact word (show Spells "IN" "in" by decide) _
  | between lower upper =>
      rw [render_between]
      exact word (show Spells "BETWEEN" "between" by decide) _
  | isNull =>
      rw [render_isNull]
      exact word (show Spells "IS" "is" by decide) _
  | before at' =>
      rw [render_before]
      exact word (show Spells "BEFORE" "before" by decide) _
  | after at' =>
      rw [render_after]
      exact word (show Spells "AFTER" "after" by decide) _
  | during start stop =>
      rw [render_during]
      exact word (show Spells "DURING" "during" by decide) _

end Forms

section OtherWords

variable {p : Predicate} {opening : String}

theorem word_predicate {w : String} (opens : p.opening = opening) (letters : IsWord w)
    (other : opening ≠ w) : (word w).read (p.render ++ rest) = none := by
  refine read_word_eq_none letters ?_
  rw [headWord_predicate, opens]
  exact fun same => other (String.toList_injective same)

theorem opening_ne_not (p : Predicate) : p.opening ≠ "not" := by
  cases p with
  | like pattern ignoreCase => cases ignoreCase <;> simp [Predicate.opening]
  | _ => simp [Predicate.opening]

theorem between_eq_none (opens : p.opening = opening) (other : opening ≠ "between") :
    between.read (p.render ++ rest) = none := by
  simp only [between, Rule.read_bind, word_predicate opens (by decide) other, Option.bind_none]

theorem like_eq_none (caseless : Bool) (opens : p.opening = opening) (notLike : opening ≠ "like")
    (notIlike : opening ≠ "ilike") : (like (likeWord caseless)).read (p.render ++ rest) = none := by
  have noWord : (likeWord caseless).read (p.render ++ rest) = none := by
    cases caseless <;>
      simp only [likeWord, Rule.read_firstOf_cons, Rule.read_firstOf_nil, Rule.read_bind,
        word_predicate opens (by decide) notLike, word_predicate opens (by decide) notIlike,
        Option.bind_none, Option.none_or, if_true, Bool.false_eq_true, if_false]
  simp only [like, Rule.read_bind, noWord, Option.bind_none]

theorem inList_eq_none (opens : p.opening = opening) (other : opening ≠ "in") :
    inList.read (p.render ++ rest) = none := by
  simp only [inList, Rule.read_bind, word_predicate opens (by decide) other, Option.bind_none]

end OtherWords

section OwnWords

theorem read_between {lower upper : Literal} (first : lower.Writable) (last : upper.Writable)
    (stops : Stops goesOn rest) :
    between.read ((Predicate.between lower upper).render ++ rest) =
      some (.ok (.between lower upper), rest) := by
  have opening : Spells "BETWEEN" "between" := by decide
  have middle : Spells "AND" "and" := by decide
  have blank : Stops goesOn (' ' :: ("AND".toList ++ ' ' :: (upper.render ++ rest))) :=
    stops_cons.mpr (by decide)
  have letter : Stops isSpace ("AND".toList ++ ' ' :: (upper.render ++ rest)) :=
    stops_cons.mpr (by decide)
  rw [render_between]
  simp only [between, Rule.read_bind, Option.bind_some, Rule.read_pure, opening.read_blank,
    read_next_blank _ (stops_isSpace_literal first _), read_value first blank,
    read_next_blank _ letter, middle.read_blank,
    read_next_blank _ (stops_isSpace_literal last _), read_value last stops]
  rfl

theorem read_likeWord {ignoreCase caseless : Bool} (known : ignoreCase = true → caseless = true)
    (stops : Stops isNameChar rest) :
    (likeWord caseless).read ((if ignoreCase then "ILIKE" else "LIKE").toList ++ rest) =
      some (ignoreCase, rest) := by
  cases ignoreCase with
  | false =>
      have spells : Spells "LIKE" "like" := by decide
      simp only [likeWord, Rule.read_firstOf_cons, Rule.read_bind, Rule.read_pure,
        Bool.false_eq_true, if_false, spells.read stops, Option.bind_some, Option.some_or]
  | true =>
      have spells : Spells "ILIKE" "ilike" := by decide
      have notLike : (word "like").read ("ILIKE".toList ++ rest) = none := by
        apply read_word_eq_none (by decide)
        rw [spells.headWord stops]
        decide
      simp only [likeWord, known rfl, if_true, Rule.read_firstOf_cons, Rule.read_bind, notLike,
        Option.bind_none, Option.none_or, spells.read stops, Option.bind_some, Rule.read_pure,
        Option.some_or]

theorem read_like {pattern : String} {ignoreCase caseless : Bool}
    (known : ignoreCase = true → caseless = true) (stops : Stops goesOn rest) :
    (like (likeWord caseless)).read ((Predicate.like pattern ignoreCase).render ++ rest) =
      some (.ok (.like pattern ignoreCase), rest) := by
  have quote : Stops isSpace (Quoted.literal pattern.toList ++ rest) := stops_cons.mpr (by decide)
  have blank : Stops isNameChar (' ' :: (Quoted.literal pattern.toList ++ rest)) :=
    stops_cons.mpr (by decide)
  rw [render_like]
  simp only [like, Rule.read_bind, read_likeWord known blank, Option.bind_some,
    read_next_blank _ quote, read_quoted pattern stops, Rule.read_pure]

theorem read_inList {values : List Literal} (filled : values ≠ [])
    (writable : ∀ value ∈ values, value.Writable) (rest : List Char) :
    inList.read ((Predicate.oneOf values).render ++ rest) = some (.ok (.oneOf values), rest) := by
  have spells : Spells "IN" "in" := by decide
  have bracket : Stops isSpace
      ('(' :: (joined ", ".toList (values.map Literal.render) ++ ')' :: rest)) :=
    stops_cons.mpr (by decide)
  rw [render_oneOf]
  simp only [inList, Rule.read_bind, Option.bind_some, Rule.read_pure, spells.read_blank,
    read_next_blank _ bracket, read_listOf_value filled writable]
  rw [mapM_map_ok]
  rfl

end OwnWords

end Grammar

end RecordSearch
