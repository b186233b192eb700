import RecordSearch.Proofs.Grammar.Hereditary
import RecordSearch.Proofs.Grammar.Operand

/-!
# What a rule reads in front of a closing bracket

A rule that reads the head of a text reads the same if a closing bracket and more text are put
behind it.  What follows a query in brackets therefore plays no part in what it means.
-/

namespace RecordSearch.Grammar

open RecordSearch.Text

variable {α β : Type} {t : List Char}

/-- A rule that succeeds on a text succeeds as well with `t` behind it. -/
def Rule.Keeps (t : List Char) (rule : Rule α) : Prop :=
  ∀ s a rest, rule.read s = some (a, rest) → rule.read (s ++ t) = some (a, rest ++ t)

/-- A rule does the same with `t` behind a text, also where it fails. -/
def Rule.Stays (t : List Char) (rule : Rule α) : Prop :=
  ∀ s, rule.read (s ++ t) = (rule.read s).map fun r => (r.1, r.2 ++ t)

namespace Rule

theorem Stays.keeps {rule : Rule α} (stays : rule.Stays t) : rule.Keeps t := by
  intro s a rest read
  rw [stays s, read]
  rfl

theorem Keeps.pure (a : α) : (pure a : Rule α).Keeps t := by
  intro s b rest read
  cases read
  rfl

theorem Keeps.bind {rule : Rule α} {f : α → Rule β} (first : rule.Keeps t)
    (later : ∀ a, (f a).Keeps t) : (rule >>= f).Keeps t := by
  intro s b rest read
  obtain ⟨a, mid, here, there⟩ := read_bind_eq_some.mp read
  exact read_bind_eq_some.mpr ⟨a, mid ++ t, first s a mid here, later a mid b rest there⟩

theorem Keeps.map {rule : Rule α} (keeps : rule.Keeps t) (f : α → β) : (f <$> rule).Keeps t := by
  intro s b rest read
  rw [read_map, Option.map_eq_some_iff] at read
  obtain ⟨⟨a, last⟩, here, done⟩ := read
  cases done
  rw [read_map, keeps s a _ here]
  rfl

theorem Keeps.named {rule : Rule α} (keeps : rule.Keeps t) : rule.named.Keeps t := by
  intro s a rest read
  rw [read_named] at read ⊢
  exact keeps s a rest read

theorem Keeps.next (shut : Shut t) {rule : Rule α} (keeps : rule.Keeps t) :
    (next rule).Keeps t := by
  intro s a rest read
  rw [read_next] at read ⊢
  rw [shut.dropWhile (by decide)]
  exact keeps _ a rest read

/-- Where at most one of two rules can read a text, the order does not matter. -/
theorem Keeps.firstOf_cons {rule : Rule α} {rules : List (Rule α)} (here : rule.Keeps t)
    (later : (firstOf rules).Keeps t)
    (apart : ∀ s x, (firstOf rules).read s = some x → rule.read s = none) :
    (firstOf (rule :: rules)).Keeps t := by
  intro s a rest read
  rw [read_firstOf_cons, Option.or_eq_some_iff] at read
  rcases read with first | ⟨-, second⟩
  · rw [read_firstOf_cons, here s a rest first, Option.some_or]
  · have kept := later s a rest second
    rw [read_firstOf_cons, apart _ _ kept, kept, Option.none_or]

theorem Keeps.firstOf_singleton {rule : Rule α} (keeps : rule.Keeps t) :
    (firstOf [rule]).Keeps t := by
  intro s a rest read
  rw [read_firstOf_singleton] at read ⊢
  exact keeps s a rest read

/-- A rule that does not depend on what follows may be tried before any other one. -/
theorem Keeps.firstOf_cons_stays {rule : Rule α} {rules : List (Rule α)} (here : rule.Stays t)
    (later : (firstOf rules).Keeps t) : (firstOf (rule :: rules)).Keeps t := by
  intro s a rest read
  rw [read_firstOf_cons, Option.or_eq_some_iff] at read
  rcases read with first | ⟨failed, second⟩
  · rw [read_firstOf_cons, here.keeps s a rest first, Option.some_or]
  · rw [read_firstOf_cons, here s, failed, Option.map_none, Option.none_or]
    exact later s a rest second

theorem Stays.map {rule : Rule α} (stays : rule.Stays t) (f : α → β) : (f <$> rule).Stays t := by
  intro s
  rw [read_map, read_map, stays s, Option.map_map, Option.map_map]
  rfl

theorem Stays.token {scan : Scan (List Char)} (fixed : Local t scan) : (token scan).Stays t := by
  intro s
  rw [read_token, read_token]
  exact fixed s

end Rule

section Words

theorem keeps_mark (c : Char) : (mark c).Keeps t := by
  intro s u rest read
  obtain rfl := read_mark_eq_some.mp read
  exact read_mark_eq_some.mpr rfl

theorem keeps_word (parted : Parted t) {w : String} (letters : IsWord w) : (word w).Keeps t := by
  apply Rule.Stays.keeps
  intro s
  rw [read_word, read_word, Local.keyword parted letters s, Option.map_map, Option.map_map]
  rfl

theorem afterNot_append (shut : Shut t) (s : List Char) :
    afterNot (s ++ t) = ((afterNot s).1, (afterNot s).2 ++ t) := by
  rw [afterNot, afterNot, shut.headWord, shut.dropWhile (by decide)]
  split <;> rfl

theorem keeps_present_not (shut : Shut t) : (Rule.present (word "not")).Keeps t := by
  intro s b rest read
  rw [read_present_not, Option.some.injEq] at read
  rw [read_present_not, afterNot_append shut, read]

theorem read_comparisonOp_single {s : List Char} :
    ((∀ c ∈ s.head?, c ≠ '>' ∧ c ≠ '=') → comparisonOp.read ('<' :: s) = some (.lt, s)) ∧
      ((∀ c ∈ s.head?, c ≠ '=') → comparisonOp.read ('>' :: s) = some (.gt, s)) := by
  cases s with
  | nil => exact ⟨fun _ => rfl, fun _ => rfl⟩
  | cons c s =>
      constructor
      · intro other
        obtain ⟨notMore, notEqual⟩ := other c rfl
        simp [comparisonOp, notMore, notEqual]
      · intro other
        have notEqual := other c rfl
        simp [comparisonOp, notEqual]

theorem keeps_comparisonOp (parted : Parted t) : comparisonOp.Keeps t := by
  have opens {p : Char → Prop} {s : List Char} (here : ∀ c ∈ s.head?, p c)
      (later : ∀ c ∈ t.head?, p c) : ∀ c ∈ (s ++ t).head?, p c := by
    cases s with
    | nil => exact later
    | cons c s => exact here
  have notEqual : ∀ c ∈ t.head?, c ≠ '=' := (parted.stops (q := (· == '=')) rfl).head_ne rfl
  have notMore : ∀ c ∈ t.head?, c ≠ '>' := (parted.stops (q := (· == '>')) rfl).head_ne rfl
  intro s op rest read
  simp only [comparisonOp, Rule.read_token] at read
  split at read <;> cases read
  · rfl
  · rfl
  · rfl
  · rfl
  · next more equal =>
      refine read_comparisonOp_single.1 (opens (fun c head => ?_) fun c head =>
        ⟨notMore c head, notEqual c head⟩)
      obtain ⟨later, rfl⟩ := List.head?_eq_some_iff.mp head
      constructor
      · rintro rfl
        exact more later rfl
      · rintro rfl
        exact equal later rfl
  · next equal =>
      refine read_comparisonOp_single.2 (opens (fun c head => ?_) notEqual)
      obtain ⟨later, rfl⟩ := List.head?_eq_some_iff.mp head
      rintro rfl
      exact equal later rfl

theorem keeps_quoted (parted : Parted t) : quoted.Keeps t := by
  refine .map (fun s text rest read => ?_) _
  rw [Rule.read_token] at read ⊢
  exact quotedText_keeps (parted.stops rfl) read

theorem stays_date (parted : Parted t) : date.Stays t :=
  .map (.token (local_dateText parted)) _

theorem stays_number (parted : Parted t) : number.Stays t :=
  .map (.token (local_numberText parted)) _

theorem keeps_value (parted : Parted t) : value.Keeps t := by
  have unquoted : (Rule.firstOf [(fun at' => Literal.date <$> at') <$> date,
      (fun n => (.ok (.number n) : Built Literal)) <$> number]).Keeps t :=
    .firstOf_cons_stays (.map (stays_date parted) _)
      (.firstOf_singleton (Rule.Stays.map (stays_number parted) _).keeps)
  -- What is read as a date or a number does not begin with the quote that a text begins with.
  refine .firstOf_cons (.map (keeps_quoted parted) _) unquoted fun s x read => ?_
  have other : ∃ c later, s = c :: later ∧ c ≠ '\'' := by
    obtain ⟨rule, member, found⟩ := Rule.exists_of_read_firstOf read
    simp only [List.mem_cons, List.not_mem_nil, or_false] at member
    rcases member with rfl | rfl
    · rw [Rule.read_map, Option.map_eq_some_iff] at found
      obtain ⟨⟨at', last⟩, inside, -⟩ := found
      obtain ⟨c, later, text, digit⟩ := head_of_read_date inside
      exact ⟨c, later, text, ne_of_class digit (by decide)⟩
    · rw [Rule.read_map, Option.map_eq_some_iff] at found
      obtain ⟨⟨n, last⟩, inside, -⟩ := found
      obtain ⟨c, later, text, rfl | digit⟩ := head_of_read_number inside
      · exact ⟨_, later, text, by decide⟩
      · exact ⟨c, later, text, ne_of_class digit (by decide)⟩
  obtain ⟨c, later, rfl, apart⟩ := other
  have noText : quotedText (c :: later) = none := by
    apply quotedText_eq_none
    rintro d ⟨⟩
    exact apart
  simp only [Rule.read_map, quoted, Rule.read_token, noText, Option.map_none]

theorem keeps_plainName (parted : Parted t) : classicAttribute.Keeps t :=
  (Rule.Stays.map (.token (local_plainName parted)) _).keeps

theorem keeps_quotedAttribute : quotedAttribute.Keeps t := by
  intro s name rest read
  rw [quotedAttribute, Rule.read_named] at read ⊢
  obtain ⟨u, inside, first, read⟩ := Rule.read_bind_eq_some.mp read
  obtain ⟨taken, last, named, read⟩ := Rule.read_bind_eq_some.mp read
  obtain ⟨u', behind, closed, done⟩ := Rule.read_bind_eq_some.mp read
  obtain rfl := read_mark_eq_some.mp first
  obtain rfl := read_mark_eq_some.mp closed
  cases done
  rw [Rule.read_token] at named
  have again : quotedName (inside ++ t) = some (taken, '"' :: (rest ++ t)) := by
    obtain ⟨text, run⟩ := Takes.some (q := (· != '"')) (fun c inClass => inClass) _ _ _ named
    have filled : taken ≠ [] := by
      rintro rfl
      rw [text] at named
      cases named
    rw [text, List.append_assoc]
    exact Scan.some_append filled run (stops_cons.mpr rfl)
  have opened : (mark '"').read ('"' :: inside ++ t) = some ((), inside ++ t) :=
    read_mark_eq_some.mpr rfl
  have ended : (mark '"').read ('"' :: (rest ++ t)) = some ((), rest ++ t) :=
    read_mark_eq_some.mpr rfl
  simp only [Rule.read_bind, opened, Option.bind_some, Rule.read_token, again, ended,
    Rule.read_pure]

theorem keeps_extendedAttribute (parted : Parted t) : extendedAttribute.Keeps t := by
  have bare : (String.ofList <$> Rule.token bareName).Keeps t :=
    (Rule.Stays.map (.token (local_bareName parted)) _).keeps
  refine .named (.firstOf_cons keeps_quotedAttribute (.firstOf_singleton bare) fun s x read => ?_)
  cases quoted : quotedAttribute.read s with
  | none => rfl
  | some y =>
      rw [quotedAttribute, Rule.read_named] at quoted
      obtain ⟨u, inside, first, -⟩ := Rule.read_bind_eq_some.mp quoted
      obtain rfl := read_mark_eq_some.mp first
      have unnamed : plainName ('"' :: inside) = none := by
        have outside : isNameStart '"' = false := by decide
        simp [plainName, Scan.sequence, Scan.one, outside]
      simp [bareName, unnamed] at read

theorem keeps_attr (parted : Parted t) (d : Dialect) : d.attr.Keeps t := by
  cases d with
  | extended => exact keeps_extendedAttribute parted
  | classic => exact keeps_plainName parted

end Words

section Lists

variable {separator : Rule Unit} {item item' : Rule α} {s rest : List Char} {items : List α}

/-- A series is carried to another rule if every item of it is. What is known of an item may
depend on what follows it, which is a separator or the end of the series. -/
theorem Series.carry {In F : List Char → Prop} {V : α → Prop} (shut : Shut t)
    (path : Path fun s rest => In s → In rest)
    (between : separator.Leaves fun s rest => In s → In rest) (kept : separator.Keeps t)
    (goesOn : ∀ mid next, separator.read (mid.dropWhile isSpace) = some ((), next) → F mid)
    (leaves : item.Leaves fun s rest => In s → In rest)
    (each : ∀ s a rest, In s → V a → F rest → item.read s = some (a, rest) →
      item'.read (s ++ t) = some (a, rest ++ t))
    (series : Series separator item s items rest) (inside : In s) (valid : ∀ a ∈ items, V a)
    (last : F rest) : Series separator item' (s ++ t) items (rest ++ t) := by
  induction series with
  | @single s rest a here =>
      exact .single (each s a rest inside (valid a List.mem_cons_self) last here)
  | @cons s mid next rest a others here stands later inductionHypothesis =>
      have behind := path.skip mid (leaves _ _ _ here inside)
      have opened := path.skip next (between _ _ _ stands behind)
      have others := inductionHypothesis opened
        (fun b member => valid b (List.mem_cons_of_mem a member)) last
      have first := each s a mid inside (valid a List.mem_cons_self) (goesOn mid _ stands) here
      refine .cons first (?_ : _ = some ((), next ++ t)) ?_
      · rw [shut.dropWhile (by decide)]
        exact kept _ _ _ stands
      · rw [shut.dropWhile (by decide)]
        exact others

theorem keeps_listOf (shut : Shut t) (keeps : item.Keeps t)
    (shortens : item.Leaves fun s rest => rest.length ≤ s.length) : (listOf item).Keeps t := by
  intro s items rest read
  obtain ⟨u, inside, first, read⟩ := Rule.read_bind_eq_some.mp read
  obtain ⟨items', mid, held, read⟩ := Rule.read_bind_eq_some.mp read
  obtain ⟨u', last, closed, done⟩ := Rule.read_bind_eq_some.mp read
  cases done
  rw [read_next] at held closed
  obtain rfl := read_mark_eq_some.mp first
  have bracket := read_mark_eq_some.mp closed
  have path : Path fun _ _ : List Char => True → True :=
    ⟨fun _ _ _ _ => trivial, fun _ _ _ _ _ _ => trivial⟩
  have series : Series (mark ',') item (inside.dropWhile isSpace ++ t) items (mid ++ t) :=
    (Series.of_read held).carry (F := fun _ => True) shut path (fun _ _ _ _ _ => trivial)
      (keeps_mark _) (fun _ _ _ => trivial) (V := fun _ => True) (fun _ _ _ _ _ => trivial)
      (fun s a rest _ _ _ read => keeps s a rest read) trivial (fun _ _ => trivial) trivial
  have behind : (mid ++ t).dropWhile isSpace = ')' :: (rest ++ t) := by
    rw [shut.dropWhile (by decide), bracket]
    rfl
  have ended : (mark ',').read ((mid ++ t).dropWhile isSpace) = none := by
    rw [behind]
    rfl
  have comma : (mark ',').Leaves fun s rest => rest.length < s.length := by
    intro s u rest read
    obtain rfl := read_mark_eq_some.mp read
    exact Nat.lt_succ_self _
  have again := series.read comma shortens ended
  have opened : (inside ++ t).dropWhile isSpace = inside.dropWhile isSpace ++ t :=
    shut.dropWhile (by decide) inside
  have first : (mark '(').read ('(' :: inside ++ t) = some ((), inside ++ t) :=
    read_mark_eq_some.mpr rfl
  have last : (mark ')').read (')' :: (rest ++ t)) = some ((), rest ++ t) :=
    read_mark_eq_some.mpr rfl
  simp only [listOf, Rule.read_bind, first, Option.bind_some, read_next, opened, again, behind,
    last, Rule.read_pure]

end Lists

section Tests

theorem Rule.Keeps.firstOf_words (shut : Shut t) {w : String} (letters : IsWord w)
    {rule : Unit → Rule α} {rules : List (Rule α)} (here : ∀ u, (rule u).Keeps t)
    (later : (firstOf rules).Keeps t)
    (other : ∀ s x, (firstOf rules).read s = some x → headWord s ≠ w.toList) :
    (firstOf ((word w >>= rule) :: rules)).Keeps t := by
  have first : (word w >>= rule).Keeps t := .bind (keeps_word shut.parted letters) here
  refine .firstOf_cons first later fun s x read => ?_
  rw [read_bind, read_word_eq_none letters (other s x read), Option.bind_none]

theorem hereditary_keeps (shut : Shut t) : Hereditary fun _ rule => rule.Keeps t where
  pure a := .pure a
  bind first later := .bind first later
  named keeps := keeps.named
  next keeps := keeps.next shut
  firstOf_singleton keeps := keeps.firstOf_singleton
  firstOf_words letters each others other := .firstOf_words shut letters each others other
  listOf keeps shortens := keeps_listOf shut keeps shortens
  word letters := keeps_word shut.parted letters
  not := keeps_present_not shut
  slash := keeps_mark _
  comparisonOp := keeps_comparisonOp shut.parted
  quoted := keeps_quoted shut.parted
  date := (stays_date shut.parted).keeps
  value := keeps_value shut.parted

theorem keeps_rule (shut : Shut t) (d : Dialect) (f : Form) : (f.rule d).Keeps t :=
  hereditary_rule (hereditary_keeps shut) (keeps_attr shut.parted d) f

end Tests

end RecordSearch.Grammar
