import RecordSearch.Proofs.Grammar.Form

/-!
# What operands and queries read

An operand is a negation, a filter in brackets or a test, and how it begins tells which.  So the
order in which the rules are tried plays no part in what is read.
-/

namespace RecordSearch

open RecordSearch.Grammar RecordSearch.Text
open RecordSearch.Dialect (negation bracketed disjunction)

namespace Grammar

variable {d : Dialect} {s rest : List Char} {v : Built Filter} {inner : Rule (Built Filter)}

theorem read_negation_eq_some :
    (negation inner).read s = some (v, rest) ↔ headWord s = "not".toList ∧
      ∃ a, inner.read ((s.dropWhile isNameChar).dropWhile isSpace) = some (a, rest) ∧
        v = a.map .not := by
  constructor
  · intro read
    obtain ⟨u, mid, first, read⟩ := Rule.read_bind_eq_some.mp read
    obtain ⟨a, last, later, done⟩ := Rule.read_bind_eq_some.mp read
    obtain ⟨said, rfl⟩ := (read_word_eq_some (by decide)).mp first
    rw [read_next] at later
    cases done
    exact ⟨said, a, later, rfl⟩
  · rintro ⟨said, a, later, rfl⟩
    have found : (word "not").read s = some ((), s.dropWhile isNameChar) :=
      (read_word_eq_some (by decide)).mpr ⟨said, rfl⟩
    simp only [negation, Rule.read_bind, found, Option.bind_some, read_next, later, Rule.read_pure]

theorem read_mark_eq_some {c : Char} {u : Unit} :
    (mark c).read s = some (u, rest) ↔ s = c :: rest := by
  rw [read_mark]
  cases s with
  | nil => simp [Scan.char]
  | cons d s =>
      by_cases same : d = c
      · simp [Scan.char, same]
      · simp [Scan.char, same]

theorem read_bracketed_eq_some {pair : Char × Char} :
    (bracketed inner pair).read s = some (v, rest) ↔ ∃ inside mid, s = pair.1 :: inside ∧
      inner.read (inside.dropWhile isSpace) = some (v, mid) ∧
        mid.dropWhile isSpace = pair.2 :: rest := by
  constructor
  · intro read
    obtain ⟨u, inside, first, read⟩ := Rule.read_bind_eq_some.mp read
    obtain ⟨a, mid, held, read⟩ := Rule.read_bind_eq_some.mp read
    obtain ⟨u', last, closed, done⟩ := Rule.read_bind_eq_some.mp read
    rw [read_next] at held closed
    cases done
    exact ⟨inside, mid, read_mark_eq_some.mp first, held, read_mark_eq_some.mp closed⟩
  · rintro ⟨inside, mid, rfl, held, closed⟩
    simp only [bracketed, Rule.read_bind, read_mark, Scan.char_cons, Option.map_some,
      Option.bind_some, read_next, held, closed, Rule.read_pure]

section Brackets

variable {pair pair' : Char × Char}

theorem headWord_bracket (among : pair ∈ d.brackets) (inside : List Char) :
    headWord (pair.1 :: inside) = [] := by
  rcases mem_brackets among with rfl | rfl
  · rfl
  · rfl

theorem shut_bracket (among : pair ∈ d.brackets) (rest : List Char) : Shut (pair.2 :: rest) := by
  rcases mem_brackets among with rfl | rfl
  · rintro c ⟨⟩
    exact .inl rfl
  · rintro c ⟨⟩
    exact .inr rfl

theorem bracket_unique {d' : Dialect} (among : pair ∈ d.brackets) (among' : pair' ∈ d'.brackets)
    (same : pair.1 = pair'.1) : pair = pair' := by
  rcases mem_brackets among with rfl | rfl <;> rcases mem_brackets among' with rfl | rfl
  · rfl
  · exact absurd same (by decide)
  · exact absurd same (by decide)
  · rfl

theorem not_testHead_bracket (among : pair ∈ d.brackets) {inside : List Char} :
    ¬ TestHead (pair.1 :: inside) := by
  rintro ⟨⟨c, later, text, start⟩, -⟩
  obtain ⟨rfl, -⟩ := List.cons.inj text
  revert start
  rcases mem_brackets among with rfl | rfl
  · decide
  · decide

end Brackets

inductive OperandRead (d : Dialect) (inner : Rule (Built Filter)) :
    List Char → Built Filter → List Char → Prop
  | negation {s rest : List Char} (a : Built Filter) (said : headWord s = "not".toList)
      (read : inner.read ((s.dropWhile isNameChar).dropWhile isSpace) = some (a, rest)) :
      OperandRead d inner s (a.map .not) rest
  | bracketed {s rest : List Char} {v : Built Filter} (pair : Char × Char)
      (inside mid : List Char) (among : pair ∈ d.brackets) (opened : s = pair.1 :: inside)
      (read : (disjunction inner).read (inside.dropWhile isSpace) = some (v, mid))
      (closed : mid.dropWhile isSpace = pair.2 :: rest) :
      OperandRead d inner s v rest
  | test {s rest : List Char} {v : Built Filter} (among : Form.of d s ∈ d.forms)
      (read : ((Form.of d s).rule d).read s = some (v, rest)) : OperandRead d inner s v rest

theorem read_operand_firstOf (d : Dialect) (depth : Nat) (s : List Char) :
    (d.operand (depth + 1)).read s =
      ((negation (d.operand depth)).read s).or
        (((Rule.firstOf (d.brackets.map (bracketed (disjunction (d.operand depth))))).read s).or
          ((Rule.firstOf d.tests).read s)) := by
  have append (rules others : List (Rule (Built Filter))) :
      (Rule.firstOf (rules ++ others)).read s =
        ((Rule.firstOf rules).read s).or ((Rule.firstOf others).read s) := by
    induction rules with
    | nil => rfl
    | cons rule rules inductionHypothesis =>
        rw [List.cons_append, Rule.read_firstOf_cons, Rule.read_firstOf_cons, inductionHypothesis,
          Option.or_assoc]
  have operand : (d.operand (depth + 1)).read s = (Rule.named (Rule.firstOf
      (negation (d.operand depth) ::
        (d.brackets.map (bracketed (disjunction (d.operand depth))) ++ d.tests)))).read s := rfl
  rw [operand, Rule.read_named, Rule.read_firstOf_cons, append]

/-- What an operand reads is told by its form, and not by the order of the rules. -/
theorem read_operand_eq_some {depth : Nat} :
    (d.operand (depth + 1)).read s = some (v, rest) ↔
      OperandRead d (d.operand depth) s v rest := by
  rw [read_operand_firstOf]
  constructor
  · intro read
    rw [Option.or_eq_some_iff, Option.or_eq_some_iff] at read
    rcases read with negated | ⟨-, inBrackets | ⟨-, tested⟩⟩
    · obtain ⟨said, a, later, rfl⟩ := read_negation_eq_some.mp negated
      exact .negation a said later
    · obtain ⟨rule, member, found⟩ := Rule.exists_of_read_firstOf inBrackets
      obtain ⟨pair, among, rfl⟩ := List.mem_map.mp member
      obtain ⟨inside, mid, rfl, held, closed⟩ := read_bracketed_eq_some.mp found
      exact .bracketed pair inside mid among rfl held closed
    · obtain ⟨among, found⟩ := read_tests_eq_some.mp tested
      exact .test among found
  · intro read
    cases read with
    | negation a said later =>
        have first : (negation (d.operand depth)).read s = some (a.map .not, rest) :=
          read_negation_eq_some.mpr ⟨said, a, later, rfl⟩
        rw [first, Option.some_or]
    | bracketed pair inside mid among opened held closed =>
        subst opened
        have noWord : headWord (pair.1 :: inside) ≠ "not".toList := by
          rw [headWord_bracket among]
          decide
        have found : (bracketed (disjunction (d.operand depth)) pair).read (pair.1 :: inside) =
            some (v, rest) := read_bracketed_eq_some.mpr ⟨inside, mid, rfl, held, closed⟩
        have only : ∀ other ∈ d.brackets, ∀ r,
            (bracketed (disjunction (d.operand depth)) other).read (pair.1 :: inside) = some r →
              other = pair := by
          rintro other member ⟨a, last⟩ read
          obtain ⟨inside', -, same, -, -⟩ := read_bracketed_eq_some.mp read
          exact bracket_unique member among (List.cons.inj same).1.symm
        have bracket := (Rule.read_firstOf_map only).mpr ⟨among, found⟩
        rw [negation_eq_none noWord, bracket, Option.none_or, Option.some_or]
    | test among found =>
        have head := testHead_of_read found
        have noBracket : (Rule.firstOf (d.brackets.map
            (bracketed (disjunction (d.operand depth))))).read s = none := by
          cases read : (Rule.firstOf (d.brackets.map
              (bracketed (disjunction (d.operand depth))))).read s with
          | none => rfl
          | some r =>
              obtain ⟨rule, member, opened⟩ := Rule.exists_of_read_firstOf read
              obtain ⟨pair, bracket, rfl⟩ := List.mem_map.mp member
              obtain ⟨inside, -, rfl, -, -⟩ := read_bracketed_eq_some.mp opened
              exact absurd head (not_testHead_bracket bracket)
        have tested := read_tests_eq_some.mpr ⟨among, found⟩
        rw [negation_eq_none head.positive, noBracket, Option.none_or, Option.none_or, tested]

theorem read_query_eq_some :
    d.query.read s = some (v, rest) ↔ ∃ mid,
      (disjunction (d.operand (s.length + 1))).read (s.dropWhile isSpace) = some (v, mid) ∧
        mid.dropWhile isSpace = [] ∧ rest = [] := by
  have ended {s rest : List Char} {u : Unit} :
      endOfText.read s = some (u, rest) ↔ s = [] ∧ rest = [] := by
    cases s with
    | nil =>
        have empty : endOfText.read [] = some ((), []) := rfl
        rw [empty]
        constructor
        · rintro ⟨⟩
          exact ⟨rfl, rfl⟩
        · rintro ⟨-, rfl⟩
          rfl
    | cons c s =>
        have filled : endOfText.read (c :: s) = none := rfl
        rw [filled]
        constructor
        · rintro ⟨⟩
        · rintro ⟨⟨⟩, -⟩
  rw [read_query_eq]
  constructor
  · intro read
    obtain ⟨a, mid, held, read⟩ := Rule.read_bind_eq_some.mp read
    obtain ⟨u, last, closed, done⟩ := Rule.read_bind_eq_some.mp read
    cases done
    rw [read_next] at held closed
    obtain ⟨blank, rfl⟩ := ended.mp closed
    exact ⟨mid, held, blank, rfl⟩
  · rintro ⟨mid, held, blank, rfl⟩
    have closed : endOfText.read (mid.dropWhile isSpace) = some ((), []) :=
      ended.mpr ⟨blank, rfl⟩
    simp only [Rule.read_bind, read_next, held, Option.bind_some, closed, Rule.read_pure]

end Grammar

namespace Dialect

variable {d : Dialect} {q : String}

theorem read_of_built {v : Built Filter} {rest : List Char}
    (fits : d.query.read q.toList = some (v, rest)) : d.read q = v.mapError .value := by
  have result : (d.query q.toList).result = some (v, rest) := fits
  unfold Dialect.read
  extract_lets s
  change (d.query s).result = _ at result
  generalize d.query s = reply at result ⊢
  obtain ⟨found, stuck⟩ := reply
  obtain rfl : found = some (v, rest) := result
  cases v <;> rfl

theorem read_of_unfit (unfit : d.query.read q.toList = none) :
    ∃ line column, d.read q = .error (.syntaxError line column) := by
  have result : (d.query q.toList).result = none := unfit
  unfold Dialect.read
  extract_lets s
  change (d.query s).result = _ at result
  generalize d.query s = reply at result ⊢
  obtain ⟨found, stuck⟩ := reply
  obtain rfl : found = none := result
  exact ⟨_, _, rfl⟩

theorem read_eq_ok_iff {f : Filter} :
    d.read q = .ok f ↔ ∃ rest, d.query.read q.toList = some (.ok f, rest) := by
  constructor
  · intro read
    cases fits : d.query.read q.toList with
    | none =>
        obtain ⟨line, column, failed⟩ := read_of_unfit fits
        rw [failed] at read
        cases read
    | some r =>
        obtain ⟨v, rest⟩ := r
        rw [read_of_built fits] at read
        cases v with
        | error fault => cases read
        | ok g =>
            cases read
            exact ⟨rest, rfl⟩
  · rintro ⟨rest, fits⟩
    exact read_of_query fits

end Dialect

end RecordSearch
