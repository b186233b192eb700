import RecordSearch.Proofs.Grammar.Rule
import RecordSearch.Proofs.Grammar.Taken

/-!
# What rules leave of a text

A rule that reads something leaves a later part of the text.  How that part lies in the text is told
by a relation that holds for every single word, and a rule that is made of others keeps to it.
-/

namespace RecordSearch.Grammar

open RecordSearch.Text

variable {α β : Type} {R : List Char → List Char → Prop}

/-- Between a text and what it leaves lies what `R` says. -/
def Rule.Leaves (R : List Char → List Char → Prop) (rule : Rule α) : Prop :=
  ∀ s a rest, rule.read s = some (a, rest) → R s rest

/-- A relation that holds whenever no quoted text is cut in two. -/
structure Path (R : List Char → List Char → Prop) : Prop where
  even : ∀ taken rest, 2 ∣ taken.count '\'' → R (taken ++ rest) rest
  trans : ∀ s t rest, R s t → R t rest → R s rest

theorem Path.plain (path : Path R) {taken : List Char} (rest : List Char)
    (unquoted : ∀ c ∈ taken, c ≠ '\'') : R (taken ++ rest) rest := by
  have none : taken.count '\'' = 0 :=
    List.count_eq_zero.mpr fun member => unquoted _ member rfl
  apply path.even
  rw [none]
  exact Nat.dvd_zero 2

theorem Path.refl (path : Path R) (s : List Char) : R s s :=
  path.even [] s (Nat.dvd_zero 2)

theorem path_length : Path fun s rest => rest.length ≤ s.length where
  even taken rest _ := by simp
  trans _ _ _ first second := Nat.le_trans second first

theorem Path.skip (path : Path R) (s : List Char) : R s (s.dropWhile isSpace) := by
  have blanks : R (s.takeWhile isSpace ++ s.dropWhile isSpace) (s.dropWhile isSpace) := by
    apply path.plain
    intro c member quote
    have blank := List.mem_takeWhile_imp member
    rw [quote] at blank
    cases blank
  rwa [List.takeWhile_append_dropWhile] at blanks

namespace Rule

theorem read_bind_eq_some {rule : Rule α} {f : α → Rule β} {s rest : List Char} {b : β} :
    (rule >>= f).read s = some (b, rest) ↔
      ∃ a mid, rule.read s = some (a, mid) ∧ (f a).read mid = some (b, rest) := by
  rw [read_bind, Option.bind_eq_some_iff, Prod.exists]

theorem Leaves.pure (path : Path R) (a : α) : (pure a : Rule α).Leaves R := by
  intro s a rest read
  cases read
  exact path.refl s

theorem Leaves.bind (path : Path R) {rule : Rule α} {f : α → Rule β} (first : rule.Leaves R)
    (later : ∀ a, (f a).Leaves R) : (rule >>= f).Leaves R := by
  intro s b rest read
  obtain ⟨a, mid, here, there⟩ := read_bind_eq_some.mp read
  exact path.trans s mid rest (first s a mid here) (later a mid b rest there)

theorem Leaves.map {rule : Rule α} (leaves : rule.Leaves R) (f : α → β) :
    (f <$> rule).Leaves R := by
  intro s b rest read
  rw [read_map, Option.map_eq_some_iff] at read
  obtain ⟨⟨a, mid⟩, here, same⟩ := read
  cases same
  exact leaves s a _ here

theorem Leaves.named {rule : Rule α} (leaves : rule.Leaves R) : rule.named.Leaves R := by
  intro s a rest read
  rw [read_named] at read
  exact leaves s a rest read

theorem read_firstOf_singleton (rule : Rule α) (s : List Char) :
    (firstOf [rule]).read s = rule.read s := by
  rw [read_firstOf_cons, read_firstOf_nil, Option.or_none]

theorem read_firstOf_pair_eq_some {rule other : Rule α} {s : List Char} {r : α × List Char} :
    (firstOf [rule, other]).read s = some r ↔
      rule.read s = some r ∨ rule.read s = none ∧ other.read s = some r := by
  rw [read_firstOf_cons, read_firstOf_singleton, Option.or_eq_some_iff]

theorem Leaves.firstOf_cons {rule : Rule α} {rules : List (Rule α)} (first : rule.Leaves R)
    (others : (firstOf rules).Leaves R) : (firstOf (rule :: rules)).Leaves R := by
  intro s a rest read
  rw [read_firstOf_cons, Option.or_eq_some_iff] at read
  rcases read with here | ⟨-, later⟩
  · exact first s a rest here
  · exact others s a rest later

theorem Leaves.firstOf {rules : List (Rule α)} (each : ∀ rule ∈ rules, rule.Leaves R) :
    (firstOf rules).Leaves R := by
  induction rules with
  | nil =>
      intro s a rest read
      cases read
  | cons rule rules inductionHypothesis =>
      exact .firstOf_cons (each rule List.mem_cons_self)
        (inductionHypothesis fun other member => each other (List.mem_cons_of_mem _ member))

theorem read_present (rule : Rule α) (s : List Char) :
    (present rule).read s = match rule.read s with
      | some r => some (true, r.2)
      | none => some (false, s) := by
  cases result : rule.read s with
  | none => exact read_present_of_none result
  | some r =>
      have unfolded := read_orElse (rule.bind fun _ => Rule.pure true) (fun _ => Rule.pure false) s
      have succeeded : (rule.bind fun _ => Rule.pure true).read s = some (true, r.2) := by
        rw [show (rule.bind fun _ => Rule.pure true) = rule >>= fun _ => pure true from rfl]
        simp [result]
      rw [succeeded, Option.some_or] at unfolded
      exact unfolded

theorem Leaves.present (path : Path R) {rule : Rule α} (leaves : rule.Leaves R) :
    (present rule).Leaves R := by
  intro s a rest read
  rw [read_present] at read
  cases result : rule.read s with
  | none =>
      rw [result] at read
      cases read
      exact path.refl s
  | some r =>
      rw [result] at read
      cases read
      exact leaves s r.1 _ result

end Rule

section Series

/-- Items with separators between them, as they stand in a text, and the rest of the text. -/
inductive Series (separator : Rule Unit) (item : Rule α) :
    List Char → List α → List Char → Prop
  | single {s rest : List Char} {a : α} (read : item.read s = some (a, rest)) :
      Series separator item s [a] rest
  | cons {s mid next rest : List Char} {a : α} {others : List α}
      (read : item.read s = some (a, mid))
      (separated : separator.read (mid.dropWhile isSpace) = some ((), next))
      (later : Series separator item (next.dropWhile isSpace) others rest) :
      Series separator item s (a :: others) rest

variable {separator : Rule Unit} {item : Rule α} {s mid rest : List Char} {a : α} {items : List α}

theorem read_turn (separator : Rule Unit) (item : Rule α) (s : List Char) :
    (next (do separator; next item)).read s =
      (separator.read (s.dropWhile isSpace)).bind fun r => item.read (r.2.dropWhile isSpace) := by
  simp only [read_next, Rule.read_bind]

theorem Series.of_upTo (limit : Nat) (here : item.read s = some (a, mid))
    (later : (Rule.upTo (next (do separator; next item)) limit).read mid = some (items, rest)) :
    Series separator item s (a :: items) rest := by
  induction limit generalizing s a mid items with
  | zero =>
      cases later
      exact .single here
  | succ limit inductionHypothesis =>
      rw [Rule.read_upTo_succ, read_turn] at later
      cases stands : separator.read (mid.dropWhile isSpace) with
      | none =>
          rw [stands] at later
          cases later
          exact .single here
      | some r =>
      rw [stands, Option.bind_some] at later
      cases there : item.read (r.2.dropWhile isSpace) with
      | none =>
          rw [there] at later
          cases later
          exact .single here
      | some b =>
      obtain ⟨b, behind⟩ := b
      rw [there, Option.bind_some] at later
      cases others : (Rule.upTo (next (do separator; next item)) limit).read behind with
      | none =>
          rw [others] at later
          cases later
          exact .single here
      | some o =>
          rw [others] at later
          cases later
          exact .cons here stands (inductionHypothesis there others)

theorem Series.of_read (read : (separated separator item).read s = some (items, rest)) :
    Series separator item s items rest := by
  obtain ⟨a, mid, here, read⟩ := Rule.read_bind_eq_some.mp read
  obtain ⟨others, last, later, done⟩ := Rule.read_bind_eq_some.mp read
  cases done
  exact Series.of_upTo _ here later

theorem Series.turns (series : Series separator item s items rest)
    (shorter : separator.Leaves fun s rest => rest.length < s.length)
    (noLonger : item.Leaves fun s rest => rest.length ≤ s.length)
    (ended : separator.read (rest.dropWhile isSpace) = none) :
    ∃ a others mid, items = a :: others ∧ item.read s = some (a, mid) ∧
      ∀ limit, mid.length < limit →
        (Rule.upTo (next (do separator; next item)) limit).read mid = some (others, rest) := by
  induction series with
  | @single s rest a here =>
      refine ⟨a, [], rest, rfl, here, fun limit _ => Rule.read_upTo_of_none ?_ limit⟩
      rw [read_turn, ended, Option.bind_none]
  | @cons s mid next rest a others here stands later inductionHypothesis =>
      obtain ⟨b, more, behind, rfl, there, reads⟩ := inductionHypothesis ended
      refine ⟨a, b :: more, mid, rfl, here, fun limit enough => ?_⟩
      -- A turn leaves less of the text, so the turns that are left are enough for the rest.
      have skipped (s : List Char) : (s.dropWhile isSpace).length ≤ s.length :=
        (List.dropWhile_sublist _).length_le
      have consumed := shorter _ _ _ stands
      have kept := noLonger _ _ _ there
      have first := skipped mid
      have second := skipped next
      obtain ⟨fewer, rfl⟩ : ∃ fewer, limit = fewer + 1 := ⟨limit - 1, by omega⟩
      rw [Rule.read_upTo_succ, read_turn, stands, Option.bind_some, there, Option.bind_some,
        reads fewer (by omega)]
      rfl

theorem Series.read (series : Series separator item s items rest)
    (shorter : separator.Leaves fun s rest => rest.length < s.length)
    (noLonger : item.Leaves fun s rest => rest.length ≤ s.length)
    (ended : separator.read (rest.dropWhile isSpace) = none) :
    (separated separator item).read s = some (items, rest) := by
  obtain ⟨a, others, mid, rfl, here, turns⟩ := series.turns shorter noLonger ended
  have later : (Rule.many (next (do separator; next item))).read mid = some (others, rest) :=
    turns (mid.length + 1) (Nat.lt_succ_self _)
  simp only [separated, Rule.read_bind, here, Option.bind_some, later, Rule.read_pure]

theorem Series.leaves (path : Path R) (between : separator.Leaves R) (each : item.Leaves R)
    (series : Series separator item s items rest) : R s rest := by
  induction series with
  | single here => exact each _ _ _ here
  | @cons s mid next rest a others here stands later inductionHypothesis =>
      have first := path.trans _ _ _ (each _ _ _ here) (path.skip mid)
      have second := path.trans _ _ _ (between _ _ _ stands) (path.skip next)
      exact path.trans _ _ _ (path.trans _ _ _ first second) inductionHypothesis

theorem Rule.Leaves.separated (path : Path R) (between : separator.Leaves R)
    (each : item.Leaves R) : (separated separator item).Leaves R := by
  intro s items rest read
  exact (Series.of_read read).leaves path between each

end Series

theorem Rule.Leaves.next (path : Path R) {rule : Rule α} (leaves : rule.Leaves R) :
    (next rule).Leaves R := by
  intro s a rest read
  rw [read_next] at read
  exact path.trans _ _ _ (path.skip s) (leaves _ a rest read)

section Words

theorem leaves_token (path : Path R) {scan : Scan (List Char)} (takes : Takes (· ≠ '\'') scan) :
    (Rule.token scan).Leaves R := by
  intro s a rest read
  rw [Rule.read_token] at read
  obtain ⟨rfl, unquoted⟩ := takes _ _ _ read
  exact path.plain rest unquoted

theorem leaves_mark (path : Path R) {c : Char} (other : c ≠ '\'') : (mark c).Leaves R := by
  intro s a rest read
  rw [read_mark, Option.map_eq_some_iff] at read
  obtain ⟨⟨taken, last⟩, here, done⟩ := read
  cases done
  obtain ⟨rfl, unquoted⟩ := Takes.char (p := (· ≠ '\'')) other _ _ _ here
  exact path.plain _ unquoted

theorem read_word_eq_some {w : String} (letters : IsWord w) {s rest : List Char} {a : Unit} :
    (word w).read s = some (a, rest) ↔ headWord s = w.toList ∧ rest = s.dropWhile isNameChar := by
  by_cases same : headWord s = w.toList
  · rw [read_word, keyword_of_headWord same, Option.map_some, Option.some.injEq, Prod.mk.injEq]
    constructor
    · rintro ⟨-, rfl⟩
      exact ⟨same, rfl⟩
    · rintro ⟨-, rfl⟩
      exact ⟨rfl, rfl⟩
  · rw [read_word, keyword_eq_none letters same]
    constructor
    · rintro ⟨⟩
    · rintro ⟨other, -⟩
      exact absurd other same

theorem leaves_word (path : Path R) {w : String} (letters : IsWord w) : (word w).Leaves R := by
  intro s a rest read
  obtain ⟨-, rfl⟩ := (read_word_eq_some letters).mp read
  have taken : R (s.takeWhile isNameChar ++ s.dropWhile isNameChar) (s.dropWhile isNameChar) :=
    path.plain _ fun c member => quote_of_isNameChar (List.mem_takeWhile_imp member)
  rwa [List.takeWhile_append_dropWhile] at taken

theorem leaves_comparisonOp (path : Path R) : comparisonOp.Leaves R := by
  intro s op rest read
  have taken : ∃ taken, s = taken ++ rest ∧ ∀ c ∈ taken, c ≠ '\'' := by
    simp only [comparisonOp, Rule.read_token] at read
    split at read <;> cases read
    · exact ⟨['<', '>'], rfl, by simp⟩
    · exact ⟨['<', '='], rfl, by simp⟩
    · exact ⟨['>', '='], rfl, by simp⟩
    · exact ⟨['='], rfl, by simp⟩
    · exact ⟨['<'], rfl, by simp⟩
    · exact ⟨['>'], rfl, by simp⟩
  obtain ⟨taken, rfl, unquoted⟩ := taken
  exact path.plain rest unquoted

theorem leaves_quoted (path : Path R) : quoted.Leaves R := by
  refine .map (fun s text rest read => ?_) _
  rw [Rule.read_token] at read
  obtain ⟨taken, rfl, even⟩ := quotedText_eq_some read
  exact path.even taken rest even

theorem leaves_date (path : Path R) : date.Leaves R := .map (leaves_token path takes_dateText) _

theorem leaves_number (path : Path R) : number.Leaves R :=
  .map (leaves_token path takes_numberText) _

theorem leaves_value (path : Path R) : value.Leaves R := by
  apply Rule.Leaves.firstOf
  simp only [List.forall_mem_cons]
  exact ⟨.map (leaves_quoted path) _, .map (leaves_date path) _, .map (leaves_number path) _,
    List.forall_mem_nil _⟩

theorem leaves_listOf (path : Path R) {item : Rule α} (each : item.Leaves R) :
    (listOf item).Leaves R := by
  refine .bind path (leaves_mark path (by decide)) fun _ => ?_
  refine .bind path (.next path (.separated path (leaves_mark path (by decide)) each))
    fun items => ?_
  exact .bind path (.next path (leaves_mark path (by decide))) fun _ => .pure path _

theorem leaves_classicAttribute (path : Path R) : classicAttribute.Leaves R := by
  have takes : Takes (· ≠ '\'') plainName := by
    intro s taken rest read
    obtain ⟨text, run⟩ := takes_plainName s taken rest read
    exact ⟨text, fun c member => quote_of_isNameChar (run c member)⟩
  exact .map (leaves_token path takes) _

theorem leaves_extendedAttribute :
    extendedAttribute.Leaves fun s rest => rest.length ≤ s.length := by
  have shortens {p : Char → Prop} {scan : Scan (List Char)} (takes : Takes p scan) :
      (Rule.token scan).Leaves fun s rest => rest.length ≤ s.length := by
    intro s taken rest read
    rw [Rule.read_token] at read
    obtain ⟨rfl, -⟩ := takes _ _ _ read
    simp
  have quotedName : Takes (fun _ => True) quotedName := .some fun _ _ => trivial
  apply Rule.Leaves.named
  apply Rule.Leaves.firstOf
  simp only [List.forall_mem_cons]
  refine ⟨.named ?_, .map (shortens takes_bareName) _, List.forall_mem_nil _⟩
  have path := path_length
  refine .bind path (leaves_mark path (by decide)) fun _ => ?_
  refine .bind path (shortens quotedName) fun name => ?_
  exact .bind path (leaves_mark path (by decide)) fun _ => .pure path _

end Words

section Operands

open RecordSearch.Dialect (conjunction disjunction)

variable {operand : Rule (Built Filter)}

theorem mem_brackets {d : Dialect} {pair : Char × Char} (among : pair ∈ d.brackets) :
    pair = ('(', ')') ∨ pair = ('[', ']') := by
  cases d with
  | extended => exact .inl (List.mem_singleton.mp among)
  | classic => simpa only [Dialect.brackets, List.mem_cons, List.not_mem_nil, or_false] using among

theorem unquoted_of_mem_brackets {d : Dialect} {pair : Char × Char} (among : pair ∈ d.brackets) :
    pair.1 ≠ '\'' ∧ pair.2 ≠ '\'' := by
  rcases mem_brackets among with rfl | rfl
  · decide
  · decide

theorem leaves_conjunction (path : Path R) (leaves : operand.Leaves R) :
    (conjunction operand).Leaves R :=
  .named (.map (.separated path (leaves_word path (by decide)) leaves) _)

theorem leaves_disjunction (path : Path R) (leaves : operand.Leaves R) :
    (disjunction operand).Leaves R :=
  .named (.map (.separated path (leaves_word path (by decide)) (leaves_conjunction path leaves)) _)

end Operands

end RecordSearch.Grammar
