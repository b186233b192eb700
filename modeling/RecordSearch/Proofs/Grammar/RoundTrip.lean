import RecordSearch.Proofs.Grammar.Test

/-!
# Filters that are read back from their texts

An operand is read whole in front of a character that cannot go on with its last word.  Connectives
stand in brackets with at least two parts, so that a list of operands ends at the bracket or at the
weaker connective.
-/

namespace RecordSearch

open RecordSearch.Grammar RecordSearch.Text
open RecordSearch.Dialect (gather conjunction disjunction negation bracketed)

/-- A filter that a dialect has a form for. -/
inductive Filter.Writable (d : Dialect) : Filter → Prop where
  | everything (extended : d = .extended) : Writable d .everything
  | nothing (extended : d = .extended) : Writable d .nothing
  | all {parts : List Filter} (several : 2 ≤ parts.length)
      (each : ∀ f ∈ parts, Writable d f) : Writable d (.all parts)
  | any {parts : List Filter} (several : 2 ≤ parts.length)
      (each : ∀ f ∈ parts, Writable d f) : Writable d (.any parts)
  | not {inner : Filter} (writable : Writable d inner) : Writable d (.not inner)
  | test {name : String} {p : Predicate} (usable : d.IsAttribute name)
      (writable : p.Writable d) : Writable d (.test name p)

namespace Grammar

variable {d : Dialect} {f : Filter} {parts : List Filter} {depth : Nat} {rest : List Char}

section Texts

theorem render_all (parts : List Filter) (rest : List Char) :
    (Filter.all parts).render ++ rest =
      '(' :: (Filter.renderParts " AND ".toList parts ++ ')' :: rest) := by
  show '(' :: (Filter.renderParts " AND ".toList parts ++ [')']) ++ rest = _
  simp only [List.cons_append, List.append_assoc, List.nil_append]

theorem render_any (parts : List Filter) (rest : List Char) :
    (Filter.any parts).render ++ rest =
      '(' :: (Filter.renderParts " OR ".toList parts ++ ')' :: rest) := by
  show '(' :: (Filter.renderParts " OR ".toList parts ++ [')']) ++ rest = _
  simp only [List.cons_append, List.append_assoc, List.nil_append]

theorem render_not (inner : Filter) (rest : List Char) :
    (Filter.not inner).render ++ rest =
      "NOT".toList ++ ' ' :: '(' :: (inner.render ++ ')' :: rest) := by
  show "NOT".toList ++ [' ', '('] ++ inner.render ++ [')'] ++ rest = _
  simp only [List.append_assoc, List.cons_append, List.nil_append]

theorem renderParts_cons (separator : List Char) (f : Filter) (others : List Filter) :
    Filter.renderParts separator (f :: others) =
      f.render ++ others.flatMap fun g => separator ++ g.render := by
  induction others generalizing f with
  | nil => exact (List.append_nil _).symm
  | cons g others inductionHypothesis =>
      show f.render ++ separator ++ Filter.renderParts separator (g :: others) = _
      rw [inductionHypothesis, List.flatMap_cons, List.append_assoc, List.append_assoc]

theorem length_render_le (separator : List Char) (member : f ∈ parts) :
    f.render.length ≤ (Filter.renderParts separator parts).length := by
  cases parts with
  | nil => simp at member
  | cons g others =>
      rw [renderParts_cons, List.length_append]
      rcases List.mem_cons.mp member with rfl | later
      · omega
      · have part := (List.sublist_flatten_of_mem
          (List.mem_map_of_mem (f := fun g : Filter => separator ++ g.render) later)).length_le
        rw [← List.flatMap_def] at part
        simp only [List.length_append] at part
        omega

theorem length_render_lt_all (member : f ∈ parts) :
    f.render.length < (Filter.all parts).render.length := by
  have part := length_render_le " AND ".toList member
  have whole := congrArg List.length (render_all parts [])
  simp only [List.length_append, List.length_cons, List.length_nil] at whole
  omega

theorem length_render_lt_any (member : f ∈ parts) :
    f.render.length < (Filter.any parts).render.length := by
  have part := length_render_le " OR ".toList member
  have whole := congrArg List.length (render_any parts [])
  simp only [List.length_append, List.length_cons, List.length_nil] at whole
  omega

theorem length_render_not (inner : Filter) :
    (Filter.not inner).render.length = inner.render.length + 6 := by
  have whole := congrArg List.length (render_not inner [])
  have word : "NOT".toList.length = 3 := by decide
  simp only [List.length_append, List.length_cons, List.length_nil, word] at whole
  omega

theorem stops_isSpace_filter (writable : f.Writable d) (rest : List Char) :
    Stops isSpace (f.render ++ rest) := by
  cases writable with
  | everything extended => exact stops_cons.mpr (by decide)
  | nothing extended => exact stops_cons.mpr (by decide)
  | all several each => exact stops_cons.mpr (by decide)
  | any several each => exact stops_cons.mpr (by decide)
  | not writable => exact stops_cons.mpr (by decide)
  | test usable writable =>
      obtain ⟨c, later, form, start, -⟩ := usable.proper.start
      rw [render_test, form]
      exact stops_cons.mpr
        (isSpace_of_class start (by decide) (by decide) (by decide) (by decide))

theorem stops_isSpace_parts (separator : List Char) (filled : parts ≠ [])
    (writable : ∀ f ∈ parts, f.Writable d) (rest : List Char) :
    Stops isSpace (Filter.renderParts separator parts ++ rest) := by
  obtain ⟨first, others, rfl⟩ := List.exists_cons_of_ne_nil filled
  rw [renderParts_cons, List.append_assoc]
  exact stops_isSpace_filter (writable first (by simp)) _

end Texts

section Lists

/-- A text that goes on neither with the last word before it nor with a connective. -/
structure Ends (connective : String) (rest : List Char) : Prop where
  stops : Stops goesOn rest
  other : headWord (rest.dropWhile isSpace) ≠ connective.toList

theorem read_turn_eq_none {connective : String} (letters : IsWord connective)
    (other : headWord (rest.dropWhile isSpace) ≠ connective.toList) (item : Rule (Built Filter)) :
    (next (do word connective; next item)).read rest = none := by
  rw [read_next, Rule.read_bind, read_word_eq_none letters other, Option.bind_none]

/-- A filter that a rule reads back in front of any text of a kind. -/
def Reads (item : Rule (Built Filter)) (Follows : List Char → Prop) (f : Filter) : Prop :=
  ∀ rest, Follows rest → item.read (f.render ++ rest) = some (.ok f, rest)

theorem read_parts {connective separator : String} {item : Rule (Built Filter)}
    (Follows : List Char → Prop) (letters : IsWord connective)
    (joins : ∀ s, Stops isSpace s →
      (next (do word connective; next item)).read (separator.toList ++ s) = item.read s)
    (filled : separator.toList ≠ []) (opens : ∀ tail, Follows (separator.toList ++ tail))
    (follows : Follows rest) (ends : Ends connective rest) (some : parts ≠ [])
    (writable : ∀ f ∈ parts, f.Writable d) (reads : ∀ f ∈ parts, Reads item Follows f) :
    (separated (word connective) item).read (Filter.renderParts separator.toList parts ++ rest) =
      .some (parts.map .ok, rest) := by
  obtain ⟨first, others, rfl⟩ := List.exists_cons_of_ne_nil some
  rw [renderParts_cons, List.append_assoc]
  exact read_separated Follows Filter.render Except.ok filled opens follows
    (read_turn_eq_none letters ends.other item)
    (fun f member tail =>
      joins _ (stops_isSpace_filter (writable f (List.mem_cons_of_mem first member)) tail))
    reads

theorem gather_single (combine : List Filter → Filter) (v : Built Filter) :
    gather combine [v] = v := by
  cases v <;> rfl

theorem gather_several (combine : List Filter → Filter) (several : 2 ≤ parts.length) :
    gather combine (parts.map .ok) = .ok (combine parts) := by
  rw [gather, mapM_map_ok]
  match parts with
  | f :: g :: others => rfl

theorem read_single {connective : String} {item : Rule (Built Filter)} (letters : IsWord connective)
    (other : headWord (rest.dropWhile isSpace) ≠ connective.toList) {s : List Char}
    {v : Built Filter} (reads : item.read s = some (v, rest)) :
    (separated (word connective) item).read s = some ([v], rest) := by
  have others : (Rule.many (next (do word connective; next item))).read rest = some ([], rest) :=
    Rule.read_upTo_of_none (read_turn_eq_none letters other item) _
  simp only [separated, Rule.read_bind, reads, Option.bind_some, others, Rule.read_pure]

theorem ends_or (tail : List Char) : Ends "and" (" OR ".toList ++ tail) where
  stops := stops_cons.mpr (by decide)
  other := by
    have word : headWord ("OR".toList ++ ' ' :: tail) = "or".toList :=
      (show Spells "OR" "or" by decide).headWord (stops_cons.mpr (by decide))
    show headWord ("OR".toList ++ ' ' :: tail) ≠ _
    rw [word]
    decide

/-- What stands behind a whole filter: a closing bracket or nothing. -/
def Closes (rest : List Char) : Prop := ∀ c ∈ rest.head?, c = ')'

theorem closes_bracket (rest : List Char) : Closes (')' :: rest) := by
  rintro c ⟨⟩
  rfl

theorem Closes.ends (closes : Closes rest) (connective : String) (filled : connective ≠ "") :
    Ends connective rest := by
  cases rest with
  | nil => exact ⟨stops_nil, fun same => filled (String.toList_injective same.symm)⟩
  | cons c rest =>
      obtain rfl : c = ')' := closes c rfl
      exact ⟨stops_cons.mpr (by decide), fun same => filled (String.toList_injective same.symm)⟩

variable {operand : Rule (Built Filter)} {s : List Char} {v : Built Filter}

theorem read_conjunction_single (other : headWord (rest.dropWhile isSpace) ≠ "and".toList)
    (reads : operand.read s = some (v, rest)) :
    (conjunction operand).read s = some (v, rest) := by
  simp [conjunction, read_single (by decide) other reads, gather_single]

theorem read_disjunction_single (other : headWord (rest.dropWhile isSpace) ≠ "or".toList)
    (reads : (conjunction operand).read s = some (v, rest)) :
    (disjunction operand).read s = some (v, rest) := by
  simp [disjunction, read_single (by decide) other reads, gather_single]

theorem read_whole (closes : Closes rest) (reads : Reads operand (Stops goesOn) f) :
    (disjunction operand).read (f.render ++ rest) = some (.ok f, rest) :=
  read_disjunction_single (closes.ends "or" (by decide)).other
    (read_conjunction_single (closes.ends "and" (by decide)).other
      (reads rest (closes.ends "and" (by decide)).stops))

theorem read_join {connective taken : String} (spells : Spells taken connective)
    (item : Rule (Built Filter)) {s : List Char}
    (letter : Stops isSpace (taken.toList ++ ' ' :: s)) (stops : Stops isSpace s) :
    (next (do word connective; next item)).read (' ' :: (taken.toList ++ ' ' :: s)) =
      item.read s := by
  rw [read_next_blank _ letter, Rule.read_bind, spells.read_blank, Option.bind_some,
    read_next_blank _ stops]

theorem read_conjunction (several : 2 ≤ parts.length) (writable : ∀ f ∈ parts, f.Writable d)
    (reads : ∀ f ∈ parts, Reads operand (Stops goesOn) f) (closes : Closes rest) :
    (disjunction operand).read (Filter.renderParts " AND ".toList parts ++ rest) =
      some (.ok (.all parts), rest) := by
  have filled : parts ≠ [] := List.ne_nil_of_length_pos (by omega)
  have ends := closes.ends "and" (by decide)
  have joins (s : List Char) (stops : Stops isSpace s) :
      (next (do word "and"; next operand)).read (" AND ".toList ++ s) = operand.read s :=
    read_join (show Spells "AND" "and" by decide) operand (stops_cons.mpr (by decide)) stops
  have items := read_parts (Stops goesOn) (by decide) joins (by decide)
    (fun tail => stops_cons.mpr (by decide)) ends.stops ends filled writable reads
  refine read_disjunction_single (closes.ends "or" (by decide)).other ?_
  simp only [conjunction, Rule.read_named, Rule.read_map, items, Option.map_some,
    gather_several _ several]

theorem read_disjunction (several : 2 ≤ parts.length) (writable : ∀ f ∈ parts, f.Writable d)
    (reads : ∀ f ∈ parts, Reads operand (Stops goesOn) f) (closes : Closes rest) :
    (disjunction operand).read (Filter.renderParts " OR ".toList parts ++ rest) =
      some (.ok (.any parts), rest) := by
  have filled : parts ≠ [] := List.ne_nil_of_length_pos (by omega)
  have joins (s : List Char) (stops : Stops isSpace s) :
      (next (do word "or"; next (conjunction operand))).read (" OR ".toList ++ s) =
        (conjunction operand).read s :=
    read_join (show Spells "OR" "or" by decide) _ (stops_cons.mpr (by decide)) stops
  -- A part of a disjunction is read as a conjunction, which must not go on behind it.
  have items := read_parts (Ends "and") (by decide) joins (by decide) ends_or
    (closes.ends "and" (by decide)) (closes.ends "or" (by decide)) filled writable
    (fun f member tail ends => read_conjunction_single ends.other (reads f member tail ends.stops))
  simp only [disjunction, Rule.read_named, Rule.read_map, items, Option.map_some,
    gather_several _ several]

end Lists

section Operands

theorem read_operand_succ (d : Dialect) (depth : Nat) (s : List Char) :
    (d.operand (depth + 1)).read s =
      ((negation (d.operand depth)).read s).or
        (((bracketed (disjunction (d.operand depth)) ('(', ')')).read s).or
          ((Rule.firstOf (d.brackets.tail.map (bracketed (disjunction (d.operand depth))) ++
            d.tests)).read s)) := by
  have round : d.brackets = ('(', ')') :: d.brackets.tail := by cases d <;> rfl
  have operand : (d.operand (depth + 1)).read s = (Rule.named (Rule.firstOf
      (negation (d.operand depth) ::
        (d.brackets.map (bracketed (disjunction (d.operand depth))) ++ d.tests)))).read s := rfl
  rw [operand, Rule.read_named, Rule.read_firstOf_cons, round, List.map_cons, List.cons_append,
    Rule.read_firstOf_cons, List.tail_cons]

theorem negation_eq_none (other : headWord rest ≠ "not".toList) :
    (negation operand).read rest = none := by
  rw [negation, Rule.read_bind, read_word_eq_none (by decide) other, Option.bind_none]

theorem bracketed_eq_none {inner : Rule (Built Filter)} {pair : Char × Char}
    (other : ∀ c ∈ rest.head?, c ≠ pair.1) : (bracketed inner pair).read rest = none := by
  rw [bracketed, Rule.read_bind, read_mark, Scan.char_eq_none other, Option.map_none,
    Option.bind_none]

theorem read_bracketed {s : List Char} (stops : Stops isSpace (s ++ ')' :: rest))
    (reads : (disjunction (d.operand depth)).read (s ++ ')' :: rest) = some (.ok f, ')' :: rest)) :
    (d.operand (depth + 1)).read ('(' :: (s ++ ')' :: rest)) = some (.ok f, rest) := by
  have closed : Stops isSpace (')' :: rest) := stops_cons.mpr (by decide)
  have noNot : (negation (d.operand depth)).read ('(' :: (s ++ ')' :: rest)) = none :=
    negation_eq_none (show ([] : List Char) ≠ _ by decide)
  have inside : (bracketed (disjunction (d.operand depth)) ('(', ')')).read
      ('(' :: (s ++ ')' :: rest)) = some (.ok f, rest) := by
    simp only [bracketed, Rule.read_bind, read_mark, Scan.char_cons, Option.map_some,
      Option.bind_some, read_next_of_stops _ stops, reads, read_next_of_stops _ closed,
      Rule.read_pure]
  rw [read_operand_succ, noNot, inside, Option.none_or, Option.some_or]

theorem read_operand_tests (d : Dialect) (depth : Nat) (noNot : headWord rest ≠ "not".toList)
    (noBracket : ∀ c ∈ rest.head?, isNameStart c = true) :
    (d.operand (depth + 1)).read rest = (Rule.firstOf d.tests).read rest := by
  have apart (pair : Char × Char) (outside : isNameStart pair.1 = false) :
      (bracketed (disjunction (d.operand depth)) pair).read rest = none :=
    bracketed_eq_none fun c head => ne_of_class (noBracket c head) outside
  have noRound := apart ('(', ')') (by decide)
  have noSquare := apart ('[', ']') (by decide)
  rw [read_operand_succ, negation_eq_none noNot, noRound, Option.none_or, Option.none_or]
  cases d with
  | extended => rfl
  | classic =>
      simp only [Dialect.brackets, List.tail_cons, List.map_cons, List.map_nil, List.cons_append,
        List.nil_append, Rule.read_firstOf_cons,
        noSquare, Option.none_or]

theorem read_negation {inner : Filter}
    (reads : operand.read ('(' :: (inner.render ++ ')' :: rest)) = some (.ok inner, rest)) :
    (negation operand).read ((Filter.not inner).render ++ rest) =
      some (.ok (.not inner), rest) := by
  have spells : Spells "NOT" "not" := by decide
  have bracket : Stops isSpace ('(' :: (inner.render ++ ')' :: rest)) := stops_cons.mpr (by decide)
  rw [render_not]
  simp only [negation, Rule.read_bind, Option.bind_some, Rule.read_pure, spells.read_blank,
    read_next_blank _ bracket, reads]
  rfl

theorem read_constant {taken w : String} (spells : Spells taken w) (f : Filter)
    (stops : Stops isNameChar rest) :
    (constant w f).read (taken.toList ++ rest) = some (.ok f, rest) := by
  simp only [constant, Rule.read_bind, spells.read stops, Option.bind_some, Rule.read_pure]

theorem read_everything (depth : Nat) :
    Reads (Dialect.extended.operand (depth + 1)) (Stops goesOn) .everything := by
  intro rest stops
  have spells : Spells "INCLUDE" "include" := by decide
  have head : headWord ("INCLUDE".toList ++ rest) = _ := spells.headWord (stops_isNameChar stops)
  show (Dialect.extended.operand (depth + 1)).read ("INCLUDE".toList ++ rest) = _
  rw [read_operand_tests _ _ (by rw [head]; decide) (by rintro c ⟨⟩; decide), Dialect.tests,
    Rule.read_firstOf_cons, read_constant spells _ (stops_isNameChar stops), Option.some_or]

theorem read_nothing (depth : Nat) :
    Reads (Dialect.extended.operand (depth + 1)) (Stops goesOn) .nothing := by
  intro rest stops
  have spells : Spells "EXCLUDE" "exclude" := by decide
  have head : headWord ("EXCLUDE".toList ++ rest) = _ := spells.headWord (stops_isNameChar stops)
  have noInclude : (constant "include" .everything).read ("EXCLUDE".toList ++ rest) = none := by
    rw [constant, Rule.read_bind, read_word_eq_none (by decide) (by rw [head]; decide),
      Option.bind_none]
  show (Dialect.extended.operand (depth + 1)).read ("EXCLUDE".toList ++ rest) = _
  rw [read_operand_tests _ _ (by rw [head]; decide) (by rintro c ⟨⟩; decide), Dialect.tests,
    Rule.read_firstOf_cons, noInclude, Option.none_or, Rule.read_firstOf_cons,
    read_constant spells _ (stops_isNameChar stops), Option.some_or]

theorem read_test {name : String} {p : Predicate} (usable : d.IsAttribute name)
    (writable : p.Writable d) (depth : Nat) :
    Reads (d.operand (depth + 1)) (Stops goesOn) (.test name p) := by
  intro rest stops
  have noNot : headWord ((Filter.test name p).render ++ rest) ≠ "not".toList := by
    rw [render_test, usable.proper.headWord (stops_cons.mpr (by decide))]
    exact usable.proper.unreserved "not" (by decide)
  have start : ∀ c ∈ ((Filter.test name p).render ++ rest).head?, isNameStart c = true := by
    obtain ⟨c, later, form, start, -⟩ := usable.proper.start
    rw [render_test, form]
    rintro _ ⟨⟩
    exact start
  rw [read_operand_tests d depth noNot start]
  exact read_tests usable writable stops

/-- A filter is read as it is written, if as many signs of nesting may follow as it has
characters. -/
theorem read_operand (writable : f.Writable d) (deep : f.render.length < depth) :
    Reads (d.operand depth) (Stops goesOn) f := by
  -- Each case reads one level of brackets, which the text of its parts is shorter by.
  induction writable generalizing depth with
  | everything extended =>
      subst extended
      obtain ⟨depth, rfl⟩ : ∃ fewer, depth = fewer + 1 := ⟨depth - 1, by omega⟩
      exact read_everything depth
  | nothing extended =>
      subst extended
      obtain ⟨depth, rfl⟩ : ∃ fewer, depth = fewer + 1 := ⟨depth - 1, by omega⟩
      exact read_nothing depth
  | @all parts several each inductionHypothesis =>
      obtain ⟨depth, rfl⟩ : ∃ fewer, depth = fewer + 1 := ⟨depth - 1, by omega⟩
      have filled : parts ≠ [] := List.ne_nil_of_length_pos (by omega)
      have reads (f : Filter) (member : f ∈ parts) : Reads (d.operand depth) (Stops goesOn) f := by
        have shorter := length_render_lt_all member
        exact inductionHypothesis f member (by omega)
      intro rest stops
      rw [render_all]
      exact read_bracketed (stops_isSpace_parts _ filled each _)
        (read_conjunction several each reads (closes_bracket rest))
  | @any parts several each inductionHypothesis =>
      obtain ⟨depth, rfl⟩ : ∃ fewer, depth = fewer + 1 := ⟨depth - 1, by omega⟩
      have filled : parts ≠ [] := List.ne_nil_of_length_pos (by omega)
      have reads (f : Filter) (member : f ∈ parts) : Reads (d.operand depth) (Stops goesOn) f := by
        have shorter := length_render_lt_any member
        exact inductionHypothesis f member (by omega)
      intro rest stops
      rw [render_any]
      exact read_bracketed (stops_isSpace_parts _ filled each _)
        (read_disjunction several each reads (closes_bracket rest))
  | @not inner writable inductionHypothesis =>
      rw [length_render_not] at deep
      obtain ⟨depth, rfl⟩ : ∃ fewer, depth = fewer + 2 := ⟨depth - 2, by omega⟩
      have shorter : inner.render.length < depth := by omega
      have reads := inductionHypothesis shorter
      intro rest stops
      have inside := read_bracketed (stops_isSpace_filter writable _)
        (read_whole (closes_bracket rest) reads)
      rw [read_operand_succ, read_negation inside, Option.some_or]
  | test usable writable =>
      obtain ⟨depth, rfl⟩ : ∃ fewer, depth = fewer + 1 := ⟨depth - 1, by omega⟩
      exact read_test usable writable depth

end Operands

section Queries

theorem read_chosen {α : Type} (rule : List Char → Rule α) (s : List Char) :
    Rule.read (fun s => rule s s) s = (rule s).read s := rfl

theorem read_query_eq (d : Dialect) (s : List Char) :
    d.query.read s = (next (disjunction (d.operand (s.length + 1))) >>= fun f =>
      next endOfText >>= fun _ => pure f : Rule (Built Filter)).read s := by
  unfold Dialect.query
  exact (Rule.read_named _ s).trans (read_chosen (fun s =>
    next (disjunction (d.operand (s.length + 1))) >>= fun f =>
      next endOfText >>= fun _ => pure f) s)

theorem read_query (writable : f.Writable d) : d.query.read f.render = some (.ok f, []) := by
  have closes : Closes [] := by
    rintro c ⟨⟩
  have whole := read_whole closes (read_operand writable (Nat.lt_succ_self f.render.length))
  have noBlank := stops_isSpace_filter writable []
  rw [List.append_nil] at whole noBlank
  have ended : endOfText.read [] = some ((), []) := rfl
  rw [read_query_eq]
  generalize d.operand (f.render.length + 1) = operand at whole ⊢
  simp only [Rule.read_bind, read_next_of_stops _ noBlank, whole, Option.bind_some, read_next,
    List.dropWhile_nil, ended, Rule.read_pure]

end Queries

end Grammar

namespace Dialect

variable {d : Dialect} {f : Filter}

theorem read_of_query {q : String} {rest : List Char}
    (accepted : d.query.read q.toList = some (.ok f, rest)) : d.read q = .ok f := by
  have result : (d.query q.toList).result = some (.ok f, rest) := accepted
  unfold Dialect.read
  extract_lets s
  change (d.query s).result = _ at result
  generalize d.query s = reply at result ⊢
  obtain ⟨found, stuck⟩ := reply
  obtain rfl : found = some (.ok f, rest) := result
  rfl

theorem read_of_written {q : String} (writable : f.Writable d) (written : q.toList = f.render) :
    d.read q = .ok f := by
  apply read_of_query
  rw [written]
  exact read_query writable

theorem read_include : extended.read "INCLUDE" = .ok .everything :=
  read_of_written (.everything rfl) rfl

/-- A dialect reads the normal form of a filter as that filter. -/
theorem read_text (f : Filter) (writable : f.Writable d) : d.read f.text = .ok f := by
  have written : f.text.toList = f.render := String.toList_ofList
  exact read_of_written writable written

/-- A quote within a text, names that begin like keywords, and every connective. -/
theorem read_text_nested :
    extended.read (Filter.any [.all [.test "state" (.compare .eq (.text "it's")),
        .not (.test "android:v2" (.during (.ofSeconds 0) (.ofSeconds 86399))), .everything],
      .test "inx" (.oneOf [.number "-1.50", .text ""])]).text =
        .ok (.any [.all [.test "state" (.compare .eq (.text "it's")),
            .not (.test "android:v2" (.during (.ofSeconds 0) (.ofSeconds 86399))), .everything],
          .test "inx" (.oneOf [.number "-1.50", .text ""])]) ∧
      classic.read (Filter.all [.test "Id" (.like "a%_" false), .test "state" .isNull]).text =
        .ok (.all [.test "Id" (.like "a%_" false), .test "state" .isNull]) := by
  have letters {l : List Char} (each : l.all isNameChar = true) : ∀ c ∈ l, isNameChar c = true :=
    List.all_eq_true.mp each
  have digits {l : List Char} (each : l.all isAsciiDigit = true) :
      ∀ c ∈ l, isAsciiDigit c = true := List.all_eq_true.mp each
  have state (d : Dialect) : d.IsAttribute "state" :=
    ⟨⟨⟨'s', "tate".toList, by decide, by decide, letters (by decide)⟩, by decide⟩,
      fun _ => by decide⟩
  have android : extended.IsAttribute "android:v2" :=
    ⟨⟨⟨'a', "ndroid:v2".toList, by decide, by decide, letters (by decide)⟩, by decide⟩,
      fun _ => by decide⟩
  have inx : extended.IsAttribute "inx" :=
    ⟨⟨⟨'i', "nx".toList, by decide, by decide, letters (by decide)⟩, by decide⟩, fun _ => by decide⟩
  have id : classic.IsAttribute "Id" :=
    ⟨⟨⟨'I', "d".toList, by decide, by decide, letters (by decide)⟩, by decide⟩,
      fun same => by cases same⟩
  have number : IsNumeral "-1.50".toList :=
    ⟨['-'], ['1'], ".50".toList, by decide, Or.inr rfl, ⟨by decide, digits (by decide)⟩,
      Or.inr ⟨"50".toList, by decide, by decide, digits (by decide)⟩⟩
  have equal : Filter.Writable extended (.test "state" (.compare .eq (.text "it's"))) :=
    .test (state extended) trivial
  have period : Filter.Writable extended
      (.test "android:v2" (.during (.ofSeconds 0) (.ofSeconds 86399))) :=
    .test android ⟨⟨rfl, by decide, by decide⟩, ⟨rfl, by decide, by decide⟩, by decide⟩
  have listed : Filter.Writable extended (.test "inx" (.oneOf [.number "-1.50", .text ""])) :=
    .test inx ⟨rfl, by decide, by simpa [Literal.Writable] using number⟩
  have pattern : Filter.Writable classic (.test "Id" (.like "a%_" false)) :=
    .test id fun caseless => by cases caseless
  have absent : Filter.Writable classic (.test "state" .isNull) := .test (state classic) trivial
  refine ⟨read_text _ (.any (by decide) ?_), read_text _ (.all (by decide) ?_)⟩
  · have inner : Filter.Writable extended (.all [.test "state" (.compare .eq (.text "it's")),
        .not (.test "android:v2" (.during (.ofSeconds 0) (.ofSeconds 86399))), .everything]) := by
      refine .all (by decide) ?_
      simp only [List.forall_mem_cons]
      exact ⟨equal, .not period, .everything rfl, List.forall_mem_nil _⟩
    simp only [List.forall_mem_cons]
    exact ⟨inner, listed, List.forall_mem_nil _⟩
  · simp only [List.forall_mem_cons]
    exact ⟨pattern, absent, List.forall_mem_nil _⟩

end Dialect

end RecordSearch
