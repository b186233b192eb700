import RecordSearch.Proofs.Grammar.Reserved

/-!
# The normal form of what is read

In the filter of a query connectives join several parts, lists are filled, periods do not end before
they start, numbers are written with digits, and there is nothing that the dialect has no form for.
Each rule establishes its part of this, and rules that are made of others pass it on.
-/

namespace RecordSearch

open RecordSearch.Grammar RecordSearch.Text
open RecordSearch.Time (Instant)
open RecordSearch.Dialect (extended classic gather conjunction disjunction negation bracketed)

/-- A number is written with digits. -/
def Literal.Normal : Literal → Prop
  | number digits => IsNumeral digits.toList
  | _ => True

/-- The parts of a predicate fit together, and the dialect has a form for it. -/
def Predicate.Normal (d : Dialect) : Predicate → Prop
  | compare _ value => value.Normal
  | like _ ignoreCase => ignoreCase = true → d = .extended
  | oneOf values => d = .extended ∧ values ≠ [] ∧ ∀ value ∈ values, value.Normal
  | between lower upper => lower.Normal ∧ upper.Normal
  | during start stop =>
    start.seconds < stop.seconds ∨ start.seconds = stop.seconds ∧ start.nanos ≤ stop.nanos
  | _ => True

/-- A filter whose attributes have names of a kind, and whose every part is as a dialect makes it. -/
inductive Filter.Normal (d : Dialect) (N : String → Prop) : Filter → Prop where
  | everything (only : d = .extended) : Normal d N .everything
  | nothing (only : d = .extended) : Normal d N .nothing
  | all {parts : List Filter} (several : 2 ≤ parts.length)
      (each : ∀ f ∈ parts, Normal d N f) : Normal d N (.all parts)
  | any {parts : List Filter} (several : 2 ≤ parts.length)
      (each : ∀ f ∈ parts, Normal d N f) : Normal d N (.any parts)
  | not {inner : Filter} (normal : Normal d N inner) : Normal d N (.not inner)
  | test {name : String} {p : Predicate} (named : N name) (normal : p.Normal d) :
      Normal d N (.test name p)

theorem Filter.Normal.named {d : Dialect} {N : String → Prop} {f : Filter} {name : String}
    (normal : f.Normal d N) (asks : f.Asks name) : N name := by
  induction normal with
  | everything | nothing => cases asks
  | all _ _ inductionHypothesis =>
      cases asks with
      | all member asks => exact inductionHypothesis _ member asks
  | any _ _ inductionHypothesis =>
      cases asks with
      | any member asks => exact inductionHypothesis _ member asks
  | not _ inductionHypothesis =>
      cases asks with
      | not asks => exact inductionHypothesis asks
  | test named _ =>
      cases asks
      exact named

namespace Grammar

section Yields

variable {α β : Type} {P : α → Prop} {Q : β → Prop} {rule : Rule α}

/-- Whatever a rule reads has a property. -/
def Rule.Yields (P : α → Prop) (rule : Rule α) : Prop :=
  ∀ s a rest, rule.read s = some (a, rest) → P a

/-- A property of the value that a text stands for, if it stands for one. -/
def Gives (P : α → Prop) (v : Built α) : Prop := ∀ a, v = .ok a → P a

theorem Gives.map {v : Built α} (gives : Gives P v) {f : α → β} (each : ∀ a, P a → Q (f a)) :
    Gives Q (v.map f) := by
  intro b made
  obtain ⟨a, value, rfl⟩ := Attempt.map_eq_ok made
  exact each a (gives a value)

theorem gives_ok {a : α} (holds : P a) : Gives P (.ok a) := by
  rintro _ ⟨⟩
  exact holds

namespace Rule.Yields

theorem trivial (rule : Rule α) : rule.Yields fun _ => True := fun _ _ _ _ => True.intro

theorem mono {P' : α → Prop} (yields : rule.Yields P) (each : ∀ a, P a → P' a) :
    rule.Yields P' := fun s a rest read => each a (yields s a rest read)

theorem pure {a : α} (holds : P a) : (Pure.pure a : Rule α).Yields P := by
  intro s a rest read
  cases read
  exact holds

theorem bind {f : α → Rule β} (first : rule.Yields P) (later : ∀ a, P a → (f a).Yields Q) :
    (rule >>= f).Yields Q := by
  intro s b rest read
  obtain ⟨a, mid, here, there⟩ := read_bind_eq_some.mp read
  exact later a (first s a mid here) mid b rest there

/-- What comes first has no part in the property. -/
theorem after (rule : Rule α) {f : α → Rule β} (later : ∀ a, (f a).Yields Q) :
    (rule >>= f).Yields Q := bind (trivial rule) fun a _ => later a

theorem map (yields : rule.Yields P) {f : α → β} (each : ∀ a, P a → Q (f a)) :
    (f <$> rule).Yields Q := by
  intro s b rest read
  rw [read_map, Option.map_eq_some_iff] at read
  obtain ⟨⟨a, mid⟩, here, same⟩ := read
  cases same
  exact each a (yields s a _ here)

theorem named (yields : rule.Yields P) : rule.named.Yields P := by
  intro s a rest read
  rw [read_named] at read
  exact yields s a rest read

theorem next (yields : rule.Yields P) : (Grammar.next rule).Yields P := by
  intro s a rest read
  rw [read_next] at read
  exact yields _ a rest read

theorem firstOf {rules : List (Rule α)} (each : ∀ rule ∈ rules, rule.Yields P) :
    (Rule.firstOf rules).Yields P := by
  intro s a rest read
  obtain ⟨rule, member, found⟩ := exists_of_read_firstOf read
  exact each rule member s a rest found

theorem separated {separator : Rule Unit} (yields : rule.Yields P) :
    (Grammar.separated separator rule).Yields fun items => items ≠ [] ∧ ∀ a ∈ items, P a := by
  intro s items rest read
  have series := Series.of_read read
  clear read
  induction series with
  | single here => exact ⟨List.cons_ne_nil _ _, List.forall_mem_singleton.mpr (yields _ _ _ here)⟩
  | cons here _ _ inductionHypothesis =>
      exact ⟨List.cons_ne_nil _ _,
        List.forall_mem_cons.mpr ⟨yields _ _ _ here, inductionHypothesis.2⟩⟩

theorem listOf (yields : rule.Yields P) :
    (Grammar.listOf rule).Yields fun items => items ≠ [] ∧ ∀ a ∈ items, P a :=
  after _ fun _ => bind yields.separated.next fun _ holds => after _ fun _ => pure holds

end Rule.Yields

end Yields

section Words

variable {s rest : List Char}

theorem isDigits_of_some {taken : List Char}
    (read : Scan.some isAsciiDigit s = some (taken, rest)) : IsDigits taken :=
  (Scan.some_eq_some read).2

theorem numberText_eq_some {taken : List Char} (read : numberText s = some (taken, rest)) :
    IsNumeral taken := by
  obtain ⟨sign, _, _, signed, unsigned, rfl⟩ :=
    Scan.sequence_cons_eq_some (Scan.closed_eq_some read)
  obtain ⟨whole, _, _, digits, behind, rfl⟩ := Scan.sequence_cons_eq_some unsigned
  obtain ⟨fraction, _, _, pointed, done, rfl⟩ := Scan.sequence_cons_eq_some behind
  cases done
  refine ⟨sign, whole, fraction, by rw [List.append_nil], ?_, isDigits_of_some digits, ?_⟩
  · rcases Scan.optional_eq_some signed with dash | ⟨absent, -⟩
    · exact .inr (Scan.char_eq_some dash).1
    · exact .inl absent
  · rcases Scan.optional_eq_some pointed with point | ⟨absent, -⟩
    · obtain ⟨dot, _, _, dotted, more, rfl⟩ := Scan.sequence_cons_eq_some point
      obtain ⟨places, _, _, digits, done, rfl⟩ := Scan.sequence_cons_eq_some more
      cases done
      rw [(Scan.char_eq_some dotted).1, List.append_nil]
      exact .inr ⟨places, rfl, isDigits_of_some digits⟩
    · exact .inl absent

theorem yields_number : number.Yields fun digits => IsNumeral digits.toList := by
  refine .map (P := IsNumeral) (fun s taken rest read => ?_) fun taken numeral => ?_
  · rw [Rule.read_token] at read
    exact numberText_eq_some read
  · rwa [String.toList_ofList]

theorem yields_value : value.Yields (Gives Literal.Normal) := by
  apply Rule.Yields.firstOf
  simp only [List.forall_mem_cons]
  refine ⟨.map (.trivial _) fun text _ => gives_ok True.intro,
    .map (.trivial _) fun at' _ => ?_, .map yields_number fun digits numeral => gives_ok numeral,
    List.forall_mem_nil _⟩
  exact Gives.map (P := fun _ => True) (fun _ _ => True.intro) fun _ _ => True.intro

theorem yields_period (d : Dialect) :
    period.Yields (Gives fun p => (Predicate.during p.1 p.2).Normal d) := by
  refine .named (.after _ fun start => .after _ fun _ => .after _ fun stop => .pure ?_)
  intro p made
  obtain ⟨first, -, made⟩ := Attempt.bind_eq_ok made
  obtain ⟨last, -, made⟩ := Attempt.bind_eq_ok made
  split at made
  · cases made
  · rename_i ordered
    cases made
    simp only [Instant.lt, Bool.or_eq_true, Bool.and_eq_true, decide_eq_true_eq, beq_iff_eq]
      at ordered
    show first.seconds < last.seconds ∨ first.seconds = last.seconds ∧ first.nanos ≤ last.nanos
    omega

theorem gives_mapM {α : Type} {P : α → Prop} {parts : List (Built α)}
    (each : ∀ v ∈ parts, Gives P v) :
    Gives (fun values => values.length = parts.length ∧ ∀ a ∈ values, P a) (parts.mapM id) := by
  intro values made
  refine ⟨(Attempt.forall₂_of_mapM made).length_eq.symm, fun a member => ?_⟩
  obtain ⟨v, among, value⟩ := (Attempt.mem_of_mapM made).mp member
  exact each v among a value

end Words

section Predicates

variable {d : Dialect}

theorem yields_between : between.Yields (Gives (Predicate.Normal d)) := by
  refine .after _ fun _ => .bind yields_value.next fun lower first => .after _ fun _ => ?_
  refine .bind yields_value.next fun upper last => .pure ?_
  intro p made
  obtain ⟨_, lower, made⟩ := Attempt.bind_eq_ok made
  obtain ⟨_, upper, made⟩ := Attempt.bind_eq_ok made
  cases made
  exact ⟨first _ lower, last _ upper⟩

theorem yields_like : (like (likeWord d.caseless)).Yields (Gives (Predicate.Normal d)) := by
  have known : (likeWord d.caseless).Yields fun ignoreCase =>
      ignoreCase = true → d = extended := by
    cases d with
    | extended => exact fun _ _ _ _ _ => rfl
    | classic =>
        apply Rule.Yields.firstOf
        refine List.forall_mem_singleton.mpr (.after _ fun _ => .pure ?_)
        exact fun caseless => absurd caseless Bool.false_ne_true
  exact .bind known fun ignoreCase only => .after _ fun pattern => .pure (gives_ok only)

theorem yields_inList (only : d = extended) : inList.Yields (Gives (Predicate.Normal d)) := by
  refine .after _ fun _ => .bind yields_value.listOf.next fun values holds => .pure ?_
  obtain ⟨filled, each⟩ := holds
  intro p made
  obtain ⟨literals, whole, made⟩ := Attempt.bind_eq_ok made
  cases made
  obtain ⟨length, normal⟩ := gives_mapM each literals whole
  refine ⟨only, ?_, normal⟩
  rintro rfl
  exact filled (List.length_eq_zero_iff.mp length.symm)

end Predicates

section Tests

variable {d : Dialect} {N : String → Prop} {attr : Rule String}

theorem normal_negateIf {name : String} {p : Predicate} (negated : Bool) (proper : N name)
    (normal : p.Normal d) : (Filter.negateIf negated (.test name p)).Normal d N := by
  cases negated with
  | false => exact .test proper normal
  | true => exact .not (.test proper normal)

theorem yields_negatable (names : attr.Yields N) {rule : Rule (Built Predicate)}
    (yields : rule.Yields (Gives (Predicate.Normal d))) :
    (negatable attr rule).Yields (Gives (Filter.Normal d N)) := by
  refine .named (.bind names fun name proper => .after _ fun negated => ?_)
  exact .bind yields.next fun predicate gives =>
    .pure (gives.map fun p => normal_negateIf negated proper)

theorem yields_nullCheck (names : attr.Yields N) :
    (nullCheck attr).Yields (Gives (Filter.Normal d N)) := by
  refine .named (.bind names fun name proper => .after _ fun _ => .after _ fun negated => ?_)
  exact .after _ fun _ => .pure (gives_ok (normal_negateIf negated proper trivial))

theorem yields_temporal (names : attr.Yields N) :
    (temporal attr).Yields (Gives (Filter.Normal d N)) := by
  refine .named (.bind names fun name proper => .bind (P := Gives (Predicate.Normal d))
    (.next (.firstOf ?_)) fun predicate gives => .pure (gives.map fun p => .test proper))
  simp only [List.forall_mem_cons]
  refine ⟨.after _ fun _ => .bind (yields_period d).next fun span gives => ?_,
    .after _ fun later => .after _ fun at' => .pure ?_, List.forall_mem_nil _⟩
  · exact .pure (gives.map fun _ normal => normal)
  · intro p made
    obtain ⟨t, -, rfl⟩ := Attempt.map_eq_ok made
    cases later <;> trivial

theorem yields_comparison (names : attr.Yields N) :
    (comparison attr).Yields (Gives (Filter.Normal d N)) := by
  refine .named (.bind names fun name proper => .after _ fun op => ?_)
  exact .bind yields_value.next fun value gives =>
    .pure (gives.map fun v normal => .test proper normal)

theorem yields_reversedComparison (names : attr.Yields N) :
    (reversedComparison attr).Yields (Gives (Filter.Normal d N)) := by
  refine .named (.bind yields_value fun value gives => .after _ fun op => ?_)
  exact .bind names.next fun name proper =>
    .pure (gives.map fun v normal => .test proper normal)

theorem yields_identityIn (only : d = extended) (identity : N identityName) :
    identityIn.Yields (Gives (Filter.Normal d N)) := by
  refine .named (.after _ fun _ => .bind (Rule.Yields.trivial _).listOf.next fun texts holds => ?_)
  refine .pure (gives_ok (.test identity ⟨only, ?_, ?_⟩))
  · exact fun empty => holds.1 (List.map_eq_nil_iff.mp empty)
  · intro value member
    obtain ⟨text, -, rfl⟩ := List.mem_map.mp member
    trivial

theorem eq_extended_of_mem_forms {f : Form} (member : f ∈ d.forms) (other : f ∉ classic.forms) :
    d = extended := by
  cases d with
  | extended => rfl
  | classic => exact absurd member other

theorem yields_ruleWith (names : attr.Yields N) (identity : N identityName) {f : Form}
    (member : f ∈ d.forms) :
    (f.ruleWith d.caseless attr).Yields (Gives (Filter.Normal d N)) := by
  have only := eq_extended_of_mem_forms member
  cases f with
  | everything => exact .after _ fun _ => .pure (gives_ok (.everything (only (by decide))))
  | nothing => exact .after _ fun _ => .pure (gives_ok (.nothing (only (by decide))))
  | identity => exact yields_identityIn (only (by decide)) identity
  | between => exact yields_negatable names yields_between
  | null => exact yields_nullCheck names
  | like => exact yields_negatable names yields_like
  | oneOf => exact yields_negatable names (yields_inList (only (by decide)))
  | temporal => exact yields_temporal names
  | comparison => exact yields_comparison names
  | reversed => exact yields_reversedComparison names

end Tests

section Operands

variable {d : Dialect} {N : String → Prop} {attr : Rule String} {inner : Rule (Built Filter)}

theorem gives_gather {combine : List Filter → Filter}
    (joins : ∀ fs : List Filter, 2 ≤ fs.length → (∀ f ∈ fs, f.Normal d N) →
      (combine fs).Normal d N)
    {parts : List (Built Filter)} (filled : parts ≠ [])
    (each : ∀ v ∈ parts, Gives (Filter.Normal d N) v) :
    Gives (Filter.Normal d N) (gather combine parts) := by
  intro f made
  obtain ⟨fs, whole, made⟩ := Attempt.bind_eq_ok made
  obtain ⟨length, normal⟩ := gives_mapM each fs whole
  rcases fs with _ | ⟨f₁, _ | ⟨f₂, fs⟩⟩
  · exact absurd (List.length_eq_zero_iff.mp length.symm) filled
  · cases made
    exact normal _ List.mem_cons_self
  · cases made
    exact joins _ (by simp) normal

theorem yields_conjunction (yields : inner.Yields (Gives (Filter.Normal d N))) :
    (conjunction inner).Yields (Gives (Filter.Normal d N)) :=
  .named (.map yields.separated fun _ holds =>
    gives_gather (fun _ several each => .all several each) holds.1 holds.2)

theorem yields_disjunction (yields : inner.Yields (Gives (Filter.Normal d N))) :
    (disjunction inner).Yields (Gives (Filter.Normal d N)) :=
  .named (.map (yields_conjunction yields).separated fun _ holds =>
    gives_gather (fun _ several each => .any several each) holds.1 holds.2)

theorem yields_operandWith (names : attr.Yields N) (identity : N identityName) (depth : Nat) :
    (d.operandWith attr depth).Yields (Gives (Filter.Normal d N)) := by
  induction depth with
  | zero =>
      intro s a rest read
      cases read
  | succ depth inductionHypothesis =>
      intro s a rest read
      refine Rule.Yields.named (.firstOf ?_) s a rest read
      intro rule member
      rcases List.mem_cons.mp member with rfl | member
      · exact .after _ fun _ => .bind inductionHypothesis.next fun f gives =>
          .pure (gives.map fun _ => .not)
      rcases List.mem_append.mp member with bracket | test
      · obtain ⟨pair, -, rfl⟩ := List.mem_map.mp bracket
        exact .after _ fun _ => .bind (yields_disjunction inductionHypothesis).next fun f gives =>
          .after _ fun _ => .pure gives
      · obtain ⟨f, among, rfl⟩ := List.mem_map.mp test
        exact yields_ruleWith names identity among

theorem yields_queryWith (names : attr.Yields N) (identity : N identityName) :
    (d.queryWith attr).Yields (Gives (Filter.Normal d N)) := by
  intro s v rest read
  rw [read_queryWith_eq] at read
  have operands := yields_operandWith (d := d) names identity (s.length + 1)
  generalize d.operandWith attr (s.length + 1) = operand at operands read
  exact Rule.Yields.bind (yields_disjunction operands).next
    (fun f gives => .after _ fun _ => .pure gives) s v rest read

end Operands

section Names

variable {d : Dialect}

/-- A letter or an underscore, and behind it letters, digits and `_`, `.` or `:`. -/
def IsIdentifier (name : List Char) : Prop :=
  ∃ c later, name = c :: later ∧ isNameStart c = true ∧ ∀ d ∈ later, isNameChar d = true

theorem isIdentifier_of_plainName {s taken rest : List Char}
    (read : plainName s = some (taken, rest)) : IsIdentifier taken := by
  obtain ⟨-, ⟨c, later, rfl, start⟩, rfl, -⟩ := plainName_eq_some read
  refine ⟨c, later.takeWhile isNameChar, ?_, start, fun d member => List.mem_takeWhile_imp member⟩
  rw [List.takeWhile_cons, isNameChar_of_isNameStart start]
  rfl

theorem isIdentifier_of_bareName {s taken rest : List Char}
    (read : bareName s = some (taken, rest)) : IsIdentifier taken := by
  unfold bareName at read
  split at read
  · cases read
  · exact isIdentifier_of_plainName read

theorem yields_token {scan : Scan (List Char)}
    (identifier : ∀ s taken rest, scan s = some (taken, rest) → IsIdentifier taken) :
    (String.ofList <$> Rule.token scan).Yields fun name => IsIdentifier name.toList := by
  refine .map (P := IsIdentifier) (fun s taken rest read => ?_) fun taken proper => ?_
  · rw [Rule.read_token] at read
    exact identifier s taken rest read
  · rwa [String.toList_ofList]

theorem yields_plain : classicAttribute.Yields fun name => IsIdentifier name.toList :=
  yields_token fun _ _ _ => isIdentifier_of_plainName

theorem yields_bare :
    (String.ofList <$> Rule.token bareName).Yields fun name => IsIdentifier name.toList :=
  yields_token fun _ _ _ => isIdentifier_of_bareName

theorem ne_empty_of_isIdentifier (name : String) (proper : IsIdentifier name.toList) :
    name ≠ "" := by
  obtain ⟨c, later, text, -⟩ := proper
  rintro rfl
  cases text

theorem yields_quotedAttribute : quotedAttribute.Yields fun name => name ≠ "" := by
  refine .named (.after _ fun _ => .bind (P := fun taken => taken ≠ []) ?_ fun taken filled =>
    .after _ fun _ => .pure ?_)
  · intro s taken rest read
    rw [Rule.read_token] at read
    exact (Scan.some_eq_some read).2.1
  · exact fun empty => filled (String.ofList_eq_empty_iff.mp empty)

theorem yields_attr : d.attr.Yields fun name => name ≠ "" := by
  cases d with
  | classic => exact yields_plain.mono ne_empty_of_isIdentifier
  | extended =>
      refine .named (.firstOf ?_)
      simp only [List.forall_mem_cons]
      exact ⟨yields_quotedAttribute, yields_bare.mono ne_empty_of_isIdentifier,
        List.forall_mem_nil _⟩

theorem yields_writtenAttr :
    d.writtenAttr.Yields fun name => '"' ∉ name.toList → IsIdentifier name.toList := by
  cases d with
  | classic => exact yields_plain.mono fun _ proper _ => proper
  | extended =>
      refine .named (.firstOf ?_)
      simp only [List.forall_mem_cons]
      refine ⟨.map (.trivial _) fun name _ bare => absurd ?_ bare,
        yields_bare.mono fun _ proper _ => proper, List.forall_mem_nil _⟩
      rw [withQuotes, String.toList_ofList]
      exact List.mem_cons_self

theorem isIdentifier_identityName : IsIdentifier identityName.toList :=
  ⟨'i', ['d'], by decide, by decide, List.forall_mem_singleton.mpr (by decide)⟩

end Names

end Grammar

namespace Dialect

/-- Whatever is read is in normal form, and a name that stands there without double quotes is an
identifier. -/
theorem read_normal {d : Dialect} {q : String} {f : Filter} (read : d.read q = .ok f) :
    f.Normal d (fun name => name ≠ "") ∧
      ∃ w, d.Writes q w ∧ f = w.rename withoutQuotes ∧
        ∀ name, w.Asks name → '"' ∉ name.toList → IsIdentifier name.toList := by
  obtain ⟨rest, fits⟩ := read_eq_ok_iff.mp read
  rw [← queryWith_attr] at fits
  obtain ⟨w, ⟨rest', written⟩, renamed⟩ := exists_writes read
  have normal := yields_queryWith yields_attr (by decide) _ _ _ fits f rfl
  have spelt := yields_queryWith yields_writtenAttr (fun _ => isIdentifier_identityName)
    _ _ _ written w rfl
  exact ⟨normal, w, ⟨rest', written⟩, renamed, fun name asks => spelt.named asks⟩

/-- A name with a blank in it, and a number with a sign and a fraction. -/
theorem read_normal_list :
    let f : Filter := .test "a b" (.oneOf [.text "x", .number "-2.50"])
    extended.read "\"a b\" IN ('x', -2.50)" = .ok f ∧
      f.Normal extended (fun name => name ≠ "") ∧
      ∃ w, extended.Writes "\"a b\" IN ('x', -2.50)" w ∧ f = w.rename withoutQuotes ∧
        ∀ name, w.Asks name → '"' ∉ name.toList → IsIdentifier name.toList := by
  intro f
  have read : extended.read "\"a b\" IN ('x', -2.50)" = .ok f :=
    read_eq_ok_iff.mpr (exists_read_of_beq (by decide +kernel))
  exact ⟨read, read_normal read⟩

end Dialect

end RecordSearch
