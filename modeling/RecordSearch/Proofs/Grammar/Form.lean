import RecordSearch.Proofs.Grammar.Leaves
import RecordSearch.Proofs.Grammar.RoundTrip

/-!
# The form of an operand is told by its first words

The rules of a dialect are tried one after another, but at most one of them can read a text: a
negation and a bracket are told by how the text begins, and a test by its first word or by the word
behind its attribute.  Only `include` is both a keyword of the extended dialect and a name, and then
the keyword is tried first.
-/

namespace RecordSearch

open RecordSearch.Grammar RecordSearch.Text
open RecordSearch.Time (Instant)

namespace Grammar

inductive Form where
  | everything
  | nothing
  | identity
  | between
  | null
  | like
  | oneOf
  | temporal
  | comparison
  | reversed
  deriving DecidableEq

def Form.attributed : Form → Bool
  | everything | nothing | identity | reversed => false
  | _ => true

end Grammar

namespace Dialect

def caseless : Dialect → Bool
  | extended => true
  | classic => false

/-- The forms of the tests of a dialect, in the order in which they are tried. -/
def forms : Dialect → List Form
  | extended =>
    [.everything, .nothing, .identity, .between, .null, .like, .oneOf, .temporal, .comparison,
      .reversed]
  | classic => [.between, .null, .like, .temporal, .comparison]

end Dialect

namespace Grammar

variable {d : Dialect} {s rest : List Char} {v : Built Filter} {f : Form} {name : String}

def Form.rule (d : Dialect) : Form → Rule (Built Filter)
  | everything => constant "include" .everything
  | nothing => constant "exclude" .nothing
  | identity => identityIn
  | between => negatable d.attr Grammar.between
  | null => nullCheck d.attr
  | like => negatable d.attr (Grammar.like (likeWord d.caseless))
  | oneOf => negatable d.attr inList
  | temporal => Grammar.temporal d.attr
  | comparison => Grammar.comparison d.attr
  | reversed => reversedComparison d.attr

theorem tests_eq (d : Dialect) : d.tests = d.forms.map (Form.rule d) := by
  cases d <;> rfl

section Behind

def negated (name : String) (rule : Rule (Built Predicate)) : Rule (Built Filter) := do
  let negated ← next (Rule.present (word "not"))
  let predicate ← next rule
  return predicate.map fun p => Filter.negateIf negated (.test name p)

/-- What stands behind the attribute of a test. -/
def Form.behind (caseless : Bool) (name : String) : Form → Rule (Built Filter)
  | between => negated name Grammar.between
  | null => do
      next (word "is")
      let negated ← next (Rule.present (word "not"))
      next (word "null")
      return .ok (Filter.negateIf negated (.test name .isNull))
  | like => negated name (Grammar.like (likeWord caseless))
  | oneOf => negated name inList
  | temporal => do
      let predicate : Built Predicate ← next (Rule.firstOf
        [do
          word "during"
          let span ← next period
          return span.map fun p => .during p.1 p.2,
        do
          let later ← Rule.firstOf
            [do word "before"; return false, do word "after"; return true]
          let at' ← next date
          return at'.map fun t => if later then .after t else .before t])
      return predicate.map fun p => .test name p
  | comparison => do
      let op ← next comparisonOp
      let value ← next value
      return value.map fun v => .test name (.compare op v)
  | _ => Rule.fail

theorem read_rule_attributed (attributed : f.attributed = true) :
    (f.rule d).read s =
      (d.attr.read s).bind fun r => (f.behind d.caseless r.1).read r.2 := by
  have unfolded (body : String → Rule (Built Filter)) :
      (Rule.named (d.attr >>= body)).read s =
        (d.attr.read s).bind fun r => (body r.1).read r.2 :=
    (Rule.read_named _ s).trans (Rule.read_bind _ _ s)
  cases f with
  | between => exact unfolded fun name => Form.behind d.caseless name .between
  | null => exact unfolded fun name => Form.behind d.caseless name .null
  | like => exact unfolded fun name => Form.behind d.caseless name .like
  | oneOf => exact unfolded fun name => Form.behind d.caseless name .oneOf
  | temporal => exact unfolded fun name => Form.behind d.caseless name .temporal
  | comparison => exact unfolded fun name => Form.behind d.caseless name .comparison
  | _ => cases attributed

def afterNot (s : List Char) : Bool × List Char :=
  if headWord s = "not".toList then (true, s.dropWhile isNameChar) else (false, s)

theorem read_present_not (s : List Char) :
    (Rule.present (word "not")).read s = some (afterNot s) := by
  rw [Rule.read_present, afterNot]
  by_cases same : headWord s = "not".toList
  · have found : (word "not").read s = some ((), s.dropWhile isNameChar) :=
      (read_word_eq_some (by decide)).mpr ⟨same, rfl⟩
    rw [found, if_pos same]
  · rw [read_word_eq_none (by decide) same, if_neg same]

theorem read_negated (rule : Rule (Built Predicate)) :
    (negated name rule).read s =
      (rule.read ((afterNot (s.dropWhile isSpace)).2.dropWhile isSpace)).map fun r =>
        (r.1.map fun p => Filter.negateIf (afterNot (s.dropWhile isSpace)).1 (.test name p),
          r.2) := by
  simp only [negated, Rule.read_bind, read_next, read_present_not, Option.bind_some,
    Rule.read_pure]
  cases rule.read ((afterNot (s.dropWhile isSpace)).2.dropWhile isSpace) <;> rfl

/-- The form of a test whose predicate begins with a word. -/
def Form.ofWord (word : List Char) : Form :=
  if word = "between".toList then .between
  else if word = "is".toList then .null
  else if word = "like".toList ∨ word = "ilike".toList then .like
  else if word = "in".toList then .oneOf
  else if word = "during".toList ∨ word = "before".toList ∨ word = "after".toList then .temporal
  else .comparison

/-- The form of a test by what stands behind its attribute. -/
def Form.ofRest (s : List Char) : Form :=
  .ofWord (headWord ((afterNot (s.dropWhile isSpace)).2.dropWhile isSpace))

theorem headWord_of_read_likeWord {caseless : Bool} {ignoreCase : Bool}
    (read : (likeWord caseless).read s = some (ignoreCase, rest)) :
    headWord s = "like".toList ∨ headWord s = "ilike".toList := by
  by_contra other
  obtain ⟨notLike, notIlike⟩ := not_or.mp other
  cases caseless <;>
    simp [likeWord, read_word_eq_none (show IsWord "like" by decide) notLike,
      read_word_eq_none (show IsWord "ilike" by decide) notIlike] at read

theorem headWord_of_read_bind {α : Type} {w : String} (letters : IsWord w) {rule : Unit → Rule α}
    {a : α} (read : (word w >>= rule).read s = some (a, rest)) : headWord s = w.toList := by
  obtain ⟨u, mid, first, -⟩ := Rule.read_bind_eq_some.mp read
  exact ((read_word_eq_some letters).mp first).1

theorem headWord_of_read_comparisonOp {op : Comparison}
    (read : comparisonOp.read s = some (op, rest)) : headWord s = [] := by
  simp only [comparisonOp, Rule.read_token] at read
  split at read <;> first | rfl | cases read

theorem dropWhile_idempotent (p : Char → Bool) (s : List Char) :
    (s.dropWhile p).dropWhile p = s.dropWhile p := (stops_dropWhile s).dropWhile

theorem ofRest_of_headWord {w : List Char} (said : headWord (s.dropWhile isSpace) = w)
    (other : w ≠ "not".toList) : Form.ofRest s = .ofWord w := by
  subst said
  rw [Form.ofRest, afterNot, if_neg other, dropWhile_idempotent]

/-- What can be read behind an attribute tells the form. -/
theorem ofRest_of_behind {caseless : Bool} {a : Built Filter}
    (read : (f.behind caseless name).read s = some (a, rest)) : Form.ofRest s = f := by
  have ofNegated {rule : Rule (Built Predicate)}
      (read : (negated name rule).read s = some (a, rest)) : ∃ p last, rule.read
        ((afterNot (s.dropWhile isSpace)).2.dropWhile isSpace) = some (p, last) := by
    rw [read_negated, Option.map_eq_some_iff] at read
    obtain ⟨⟨p, last⟩, inside, -⟩ := read
    exact ⟨p, last, inside⟩
  cases f with
  | between =>
      obtain ⟨p, last, inside⟩ := ofNegated read
      rw [Form.ofRest, headWord_of_read_bind (by decide) inside]
      decide
  | null =>
      obtain ⟨u, mid, first, -⟩ := Rule.read_bind_eq_some.mp read
      rw [read_next] at first
      rw [ofRest_of_headWord ((read_word_eq_some (by decide)).mp first).1 (by decide)]
      decide
  | like =>
      obtain ⟨p, last, inside⟩ := ofNegated read
      obtain ⟨ignoreCase, mid, first, -⟩ := Rule.read_bind_eq_some.mp inside
      rcases headWord_of_read_likeWord first with said | said
      · rw [Form.ofRest, said]
        decide
      · rw [Form.ofRest, said]
        decide
  | oneOf =>
      obtain ⟨p, last, inside⟩ := ofNegated read
      rw [Form.ofRest, headWord_of_read_bind (by decide) inside]
      decide
  | temporal =>
      obtain ⟨p, mid, first, -⟩ := Rule.read_bind_eq_some.mp read
      rw [read_next, Rule.read_firstOf_pair_eq_some] at first
      rcases first with during | ⟨-, point⟩
      · rw [ofRest_of_headWord (headWord_of_read_bind (by decide) during) (by decide)]
        decide
      · obtain ⟨later, last, either, -⟩ := Rule.read_bind_eq_some.mp point
        rcases Rule.read_firstOf_pair_eq_some.mp either with before | ⟨-, after⟩
        · rw [ofRest_of_headWord (headWord_of_read_bind (by decide) before) (by decide)]
          decide
        · rw [ofRest_of_headWord (headWord_of_read_bind (by decide) after) (by decide)]
          decide
  | comparison =>
      obtain ⟨op, mid, first, -⟩ := Rule.read_bind_eq_some.mp read
      rw [read_next] at first
      rw [ofRest_of_headWord (headWord_of_read_comparisonOp first) (by decide)]
      decide
  | _ => cases read

end Behind

section Heads

theorem Rule.exists_of_read_firstOf {α : Type} {rules : List (Rule α)} {r : α × List Char}
    (read : (firstOf rules).read s = some r) : ∃ rule ∈ rules, rule.read s = some r := by
  induction rules with
  | nil => cases read
  | cons rule rules inductionHypothesis =>
      rw [read_firstOf_cons, Option.or_eq_some_iff] at read
      rcases read with here | ⟨-, later⟩
      · exact ⟨rule, List.mem_cons_self, here⟩
      · obtain ⟨other, member, found⟩ := inductionHypothesis later
        exact ⟨other, List.mem_cons_of_mem _ member, found⟩

theorem caseless_eq_none {w : String} (letters : IsWord w) (apart : ¬ w.toList <+: headWord s) :
    Scan.caseless w.toList s = none := by
  cases read : Scan.caseless w.toList s with
  | none => rfl
  | some r =>
      obtain ⟨text, lowered⟩ := Scan.caseless_eq_some_iff.mp read
      have run : ∀ c ∈ r.1, isNameChar c = true := fun c member =>
        isNameChar_of_asciiLower (letters _ (lowered ▸ List.mem_map_of_mem member))
      refine absurd ?_ apart
      rw [headWord, text, List.takeWhile_append_of_pos run, List.map_append, lowered]
      exact List.prefix_append _ _

/-- A reserved word is found, unless an earlier one stands at its head. -/
theorem beginsReserved_eq_true {w : String} {before after : List String}
    (place : reservedWords = before ++ w :: after)
    (apart : ∀ other ∈ before, ¬ other.toList <+: w.toList) (same : headWord s = w.toList) :
    beginsReserved s = true := by
  have skipped : (before.findSome? fun word => Scan.caseless word.toList s) = none := by
    rw [List.findSome?_eq_none_iff]
    intro other member
    apply caseless_eq_none
    · apply isWord_of_mem_reservedWords
      rw [place]
      exact List.mem_append_left _ member
    · rw [same]
      exact apart other member
  have found : Scan.caseless w.toList s = some (s.takeWhile isNameChar, s.dropWhile isNameChar) :=
    Scan.caseless_eq_some_iff.mpr ⟨List.takeWhile_append_dropWhile.symm, same⟩
  have outside := stops_dropWhile (p := isNameChar) s
  unfold beginsReserved
  rw [place, List.findSome?_append, skipped, Option.none_or, List.findSome?_cons, found]
  cases rest : s.dropWhile isNameChar with
  | nil => rfl
  | cons c later =>
      rw [rest] at outside
      simp [stops_cons.mp outside]

structure AttributeHead (s : List Char) : Prop where
  start : ∀ c ∈ s.head?, isNameStart c = true ∨ c = '"'
  filled : s ≠ []
  unreserved : headWord s ≠ "not".toList ∧ headWord s ≠ "exclude".toList ∧
    headWord s ≠ "in".toList

theorem plainName_eq_some {taken : List Char} (read : plainName s = some (taken, rest)) :
    beginsReserved s = false ∧ (∃ c later, s = c :: later ∧ isNameStart c = true) ∧
      taken = s.takeWhile isNameChar ∧ rest = s.dropWhile isNameChar := by
  unfold plainName at read
  cases reserved : beginsReserved s with
  | true =>
      rw [reserved] at read
      cases read
  | false =>
  rw [reserved] at read
  simp only [Bool.false_eq_true, if_false] at read
  cases s with
  | nil => cases read
  | cons c s =>
  cases start : isNameStart c with
  | false => simp [Scan.sequence, Scan.one, start] at read
  | true =>
  have inName := isNameChar_of_isNameStart start
  have first : Scan.one isNameStart (c :: s) = some ([c], s) := by simp [Scan.one, start]
  have others : Scan.optional (.some isNameChar) s =
      some (s.takeWhile isNameChar, s.dropWhile isNameChar) := by
    have split := Scan.optional_some_append (p := isNameChar) (s := s.takeWhile isNameChar)
      (fun c member => List.mem_takeWhile_imp member) (stops_dropWhile s)
    rwa [List.takeWhile_append_dropWhile] at split
  rw [Scan.sequence_cons_of_some first, Scan.sequence_cons_of_some others, Scan.sequence_nil]
    at read
  simp only [Option.map_some, List.append_nil, Option.some.injEq, Prod.mk.injEq] at read
  obtain ⟨rfl, rfl⟩ := read
  refine ⟨rfl, ⟨c, s, rfl, start⟩, ?_, ?_⟩
  · rw [List.takeWhile_cons_of_pos inName]
    rfl
  · rw [List.dropWhile_cons_of_pos inName]

theorem eq_of_reserved_head : ∀ w ∈ reservedWords, w ≠ "include" → ∀ other ∈ reservedWords,
    other.toList <+: w.toList → other = w := by
  decide

/-- No plain name is a reserved word, unless another one hides that. -/
theorem headWord_ne_of_plainName {taken : List Char} (read : plainName s = some (taken, rest))
    {w : String} (reserved : w ∈ reservedWords) (other : w ≠ "include") :
    headWord s ≠ w.toList := by
  intro same
  obtain ⟨unreserved, -⟩ := plainName_eq_some read
  obtain ⟨before, after, place, first⟩ := List.eq_append_cons_of_mem reserved
  have apart : ∀ word ∈ before, ¬ word.toList <+: w.toList := by
    intro word earlier prefixed
    have among : word ∈ reservedWords := by
      rw [place]
      exact List.mem_append_left _ earlier
    rw [eq_of_reserved_head w reserved other word among prefixed] at earlier
    exact first earlier
  rw [beginsReserved_eq_true place apart same] at unreserved
  cases unreserved

theorem attributeHead_of_plainName {taken : List Char} (read : plainName s = some (taken, rest)) :
    AttributeHead s := by
  obtain ⟨-, ⟨c, later, rfl, start⟩, -, -⟩ := plainName_eq_some read
  refine ⟨?_, List.cons_ne_nil _ _, ?_, ?_, ?_⟩
  · rintro d ⟨⟩
    exact .inl start
  · exact headWord_ne_of_plainName read (by decide) (by decide)
  · exact headWord_ne_of_plainName read (by decide) (by decide)
  · exact headWord_ne_of_plainName read (by decide) (by decide)

theorem plainName_of_read_classicAttribute (read : classicAttribute.read s = some (name, rest)) :
    ∃ taken, plainName s = some (taken, rest) ∧ name = String.ofList taken := by
  rw [classicAttribute, Rule.read_map, Rule.read_token, Option.map_eq_some_iff] at read
  obtain ⟨⟨taken, last⟩, plain, done⟩ := read
  cases done
  exact ⟨taken, plain, rfl⟩

theorem attributeHead_of_quotedAttribute (read : quotedAttribute.read s = some (name, rest)) :
    AttributeHead s := by
  rw [quotedAttribute, Rule.read_named] at read
  obtain ⟨u, mid, first, -⟩ := Rule.read_bind_eq_some.mp read
  rw [read_mark] at first
  cases s with
  | nil => cases first
  | cons c s =>
      by_cases same : c = '"'
      · subst same
        refine ⟨?_, List.cons_ne_nil _ _, ?_⟩
        · rintro d ⟨⟩
          exact .inr rfl
        · have none : headWord ('"' :: s) = [] := rfl
          rw [none]
          decide
      · simp [Scan.char, same] at first

/-- No other test begins like an attribute, but for the keyword `include`. -/
theorem attributeHead_of_attr (read : d.attr.read s = some (name, rest)) : AttributeHead s := by
  cases d with
  | classic =>
      obtain ⟨taken, plain, -⟩ := plainName_of_read_classicAttribute read
      exact attributeHead_of_plainName plain
  | extended =>
      simp only [Dialect.attr, extendedAttribute, Rule.read_named, Rule.read_firstOf_pair_eq_some,
        Rule.read_map, Rule.read_token, Option.map_eq_some_iff] at read
      rcases read with quoted | ⟨-, ⟨taken, last⟩, bare, -⟩
      · exact attributeHead_of_quotedAttribute quoted
      · unfold bareName at bare
        split at bare
        · cases bare
        · exact attributeHead_of_plainName bare

def isValueStart (c : Char) : Bool := c == '\'' || c == '-' || isAsciiDigit c

theorem head_of_read_date {a : Built Instant} (read : date.read s = some (a, rest)) :
    ∃ c later, s = c :: later ∧ isAsciiDigit c = true := by
  cases s with
  | nil => cases read
  | cons c s =>
      refine ⟨c, s, rfl, ?_⟩
      by_contra other
      have noDate : dateText (c :: s) = none := by
        apply Scan.closed_of_none
        apply Scan.sequence_cons_of_none
        simp [Scan.exactly, other]
      simp [date, noDate] at read

theorem head_of_read_number {a : String} (read : number.read s = some (a, rest)) :
    ∃ c later, s = c :: later ∧ (c = '-' ∨ isAsciiDigit c = true) := by
  cases s with
  | nil => cases read
  | cons c s =>
      refine ⟨c, s, rfl, ?_⟩
      by_contra other
      obtain ⟨notMinus, notDigit⟩ := not_or.mp other
      have noSign : Scan.char '-' (c :: s) = none :=
        Scan.char_eq_none (by rintro d ⟨⟩; exact notMinus)
      have noDigits : Scan.some isAsciiDigit (c :: s) = none :=
        Scan.some_eq_none (stops_cons.mpr (Bool.eq_false_iff.mpr notDigit))
      have noNumber : numberText (c :: s) = none := by
        apply Scan.closed_of_none
        rw [Scan.sequence_cons_of_some (Scan.optional_of_none noSign),
          Scan.sequence_cons_of_none noDigits]
        rfl
      simp [number, noNumber] at read

theorem head_of_read_quoted {a : String} (read : quoted.read s = some (a, rest)) :
    ∃ later, s = '\'' :: later := by
  cases s with
  | nil => cases read
  | cons c s =>
      refine ⟨s, ?_⟩
      by_contra other
      have noText : quotedText (c :: s) = none := by
        apply quotedText_eq_none
        rintro d ⟨⟩ rfl
        exact other rfl
      simp [quoted, noText] at read

theorem head_of_read_value {a : Built Literal} (read : value.read s = some (a, rest)) :
    ∃ c later, s = c :: later ∧ isValueStart c = true := by
  obtain ⟨rule, member, found⟩ := Rule.exists_of_read_firstOf read
  simp only [List.mem_cons, List.not_mem_nil, or_false] at member
  rcases member with rfl | rfl | rfl
  · rw [Rule.read_map, Option.map_eq_some_iff] at found
    obtain ⟨⟨text, last⟩, inside, -⟩ := found
    obtain ⟨later, rfl⟩ := head_of_read_quoted inside
    exact ⟨_, later, rfl, rfl⟩
  · rw [Rule.read_map, Option.map_eq_some_iff] at found
    obtain ⟨⟨at', last⟩, inside, -⟩ := found
    obtain ⟨c, later, rfl, digit⟩ := head_of_read_date inside
    refine ⟨c, later, rfl, ?_⟩
    simp only [isValueStart, digit, Bool.or_true]
  · rw [Rule.read_map, Option.map_eq_some_iff] at found
    obtain ⟨⟨n, last⟩, inside, -⟩ := found
    obtain ⟨c, later, rfl, rfl | digit⟩ := head_of_read_number inside
    · exact ⟨_, later, rfl, rfl⟩
    · refine ⟨c, later, rfl, ?_⟩
      simp only [isValueStart, digit, Bool.or_true]

end Heads

section Tests

/-- The form of a text, if it is a test at all. -/
def Form.of (d : Dialect) (s : List Char) : Form :=
  if d = .extended ∧ headWord s = "include".toList then .everything
  else if headWord s = "exclude".toList then .nothing
  else if headWord s = "in".toList then .identity
  else
    match d.attr.read s with
    | some (_, rest) => .ofRest rest
    | none => .reversed

structure TestHead (s : List Char) : Prop where
  start : ∃ c later, s = c :: later ∧
    (isNameStart c = true ∨ c = '"' ∨ isValueStart c = true)
  positive : headWord s ≠ "not".toList

theorem isNameStart_of_headWord {w : String} {c : Char} (letters : IsWord w)
    (filled : w.toList ≠ []) (same : headWord (c :: s) = w.toList) : isNameStart c = true := by
  have inName : isNameChar c = true := by
    by_contra outside
    rw [headWord, List.takeWhile_cons_of_neg outside] at same
    exact filled same.symm
  rw [headWord, List.takeWhile_cons_of_pos inName, List.map_cons] at same
  have letter : isAsciiLower (asciiLower c) = true := by
    apply letters
    rw [← same]
    exact List.mem_cons_self
  by_cases upper : isAsciiUpper c = true
  · simp [isNameStart, isAsciiLetter, upper]
  · rw [asciiLower, if_neg upper] at letter
    simp [isNameStart, isAsciiLetter, letter]

theorem isValueStart_of_isNameStart {c : Char} (start : isNameStart c = true) :
    isValueStart c = false := by
  have notDigit : isAsciiDigit c = false := by
    by_contra digit
    simp only [isNameStart, isAsciiLetter, isAsciiUpper, isAsciiLower, isAsciiDigit,
      Bool.or_eq_true, Bool.and_eq_true, decide_eq_true_eq, Bool.not_eq_false, beq_iff_eq,
      Char.le_def, UInt32.le_iff_toNat_le] at start digit
    rcases start with (upper | lower) | rfl
    · have first : 'A'.val.toNat = 65 := rfl
      have last : '9'.val.toNat = 57 := rfl
      omega
    · have first : 'a'.val.toNat = 97 := rfl
      have last : '9'.val.toNat = 57 := rfl
      omega
    · exact absurd digit (by decide)
  have notQuote : c ≠ '\'' := ne_of_class start (by decide)
  have notMinus : c ≠ '-' := ne_of_class start (by decide)
  simp [isValueStart, notDigit, notQuote, notMinus]

theorem headWord_ne_of_value {w : String} {c : Char} (letters : IsWord w)
    (filled : w.toList ≠ []) (start : isValueStart c = true) :
    headWord (c :: s) ≠ w.toList := by
  intro same
  have other := isValueStart_of_isNameStart (isNameStart_of_headWord letters filled same)
  rw [start] at other
  cases other

theorem testHead_of_word {w : String} (letters : IsWord w) (filled : w.toList ≠ [])
    (other : w ≠ "not") (same : headWord s = w.toList) : TestHead s := by
  cases s with
  | nil => exact absurd same.symm filled
  | cons c s =>
      refine ⟨⟨c, s, rfl, .inl (isNameStart_of_headWord letters filled same)⟩, ?_⟩
      rw [same]
      exact fun equal => other (String.toList_injective equal)

theorem testHead_of_read (read : (f.rule d).read s = some (v, rest)) : TestHead s := by
  have attributed (form : f.attributed = true) : TestHead s := by
    rw [read_rule_attributed form, Option.bind_eq_some_iff] at read
    obtain ⟨⟨name, mid⟩, first, -⟩ := read
    have head := attributeHead_of_attr first
    obtain ⟨c, later, rfl⟩ := List.exists_cons_of_ne_nil head.filled
    refine ⟨⟨c, later, rfl, ?_⟩, head.unreserved.1⟩
    rcases head.start c rfl with start | quote
    · exact .inl start
    · exact .inr (.inl quote)
  cases f with
  | everything =>
      exact testHead_of_word (by decide) (by decide) (by decide)
        (headWord_of_read_bind (by decide) read)
  | nothing =>
      exact testHead_of_word (by decide) (by decide) (by decide)
        (headWord_of_read_bind (by decide) read)
  | identity =>
      rw [Form.rule, identityIn, Rule.read_named] at read
      exact testHead_of_word (by decide) (by decide) (by decide)
        (headWord_of_read_bind (by decide) read)
  | reversed =>
      rw [Form.rule, reversedComparison, Rule.read_named] at read
      obtain ⟨a, mid, first, -⟩ := Rule.read_bind_eq_some.mp read
      obtain ⟨c, later, rfl, start⟩ := head_of_read_value first
      exact ⟨⟨c, later, rfl, .inr (.inr start)⟩,
        headWord_ne_of_value (by decide) (by decide) start⟩
  | _ => exact attributed rfl

theorem form_of_read (member : f ∈ d.forms)
    (keyword : d = .extended → headWord s = "include".toList → f = .everything)
    (read : (f.rule d).read s = some (v, rest)) : Form.of d s = f := by
  have attributed (form : f.attributed = true) : Form.of d s = f := by
    have noConstant : ¬ (d = .extended ∧ headWord s = "include".toList) := by
      rintro ⟨extended, same⟩
      rw [keyword extended same] at form
      cases form
    rw [read_rule_attributed form, Option.bind_eq_some_iff] at read
    obtain ⟨⟨name, mid⟩, first, later⟩ := read
    have head := attributeHead_of_attr first
    rw [Form.of, if_neg noConstant, if_neg head.unreserved.2.1, if_neg head.unreserved.2.2, first]
    exact ofRest_of_behind later
  cases f with
  | everything =>
      have extended : d = .extended := by
        cases d with
        | extended => rfl
        | classic => exact absurd member (by decide)
      have said : headWord s = "include".toList := headWord_of_read_bind (by decide) read
      rw [Form.of, if_pos ⟨extended, said⟩]
  | nothing =>
      have said : headWord s = "exclude".toList := headWord_of_read_bind (by decide) read
      rw [Form.of, said, if_neg fun both => absurd both.2 (by decide), if_pos rfl]
  | identity =>
      rw [Form.rule, identityIn, Rule.read_named] at read
      have said : headWord s = "in".toList := headWord_of_read_bind (by decide) read
      rw [Form.of, said, if_neg fun both => absurd both.2 (by decide), if_neg (by decide),
        if_pos rfl]
  | reversed =>
      rw [Form.rule, reversedComparison, Rule.read_named] at read
      obtain ⟨a, mid, first, -⟩ := Rule.read_bind_eq_some.mp read
      obtain ⟨c, later, rfl, start⟩ := head_of_read_value first
      have other {w : String} (letters : IsWord w) (filled : w.toList ≠ []) :
          headWord (c :: later) ≠ w.toList := headWord_ne_of_value letters filled start
      -- A literal comes first, and no attribute begins like a value.
      have noAttribute : d.attr.read (c :: later) = none := by
        cases result : d.attr.read (c :: later) with
        | none => rfl
        | some r =>
            rcases (attributeHead_of_attr result).start c rfl with name | rfl
            · rw [isValueStart_of_isNameStart name] at start
              cases start
            · cases start
      rw [Form.of, if_neg fun both => other (by decide) (by decide) both.2,
        if_neg (other (by decide) (by decide)), if_neg (other (by decide) (by decide)),
        noAttribute]
  | _ => exact attributed rfl

/-- Where only one of several rules can read a text, their order does not matter. -/
theorem Rule.read_firstOf_map {κ α : Type} {rule : κ → Rule α} {keys : List κ} {key : κ}
    (only : ∀ other ∈ keys, ∀ r, (rule other).read s = some r → other = key)
    {r : α × List Char} :
    (firstOf (keys.map rule)).read s = some r ↔ key ∈ keys ∧ (rule key).read s = some r := by
  induction keys with
  | nil => simp
  | cons first keys inductionHypothesis =>
      have later := inductionHypothesis fun other member =>
        only other (List.mem_cons_of_mem _ member)
      rw [List.map_cons, read_firstOf_cons]
      cases read : (rule first).read s with
      | some here =>
          obtain rfl := only first List.mem_cons_self here read
          rw [Option.some_or, read]
          exact ⟨fun same => ⟨List.mem_cons_self, same⟩, And.right⟩
      | none =>
          rw [Option.none_or, later, List.mem_cons]
          constructor
          · rintro ⟨member, found⟩
            exact ⟨.inr member, found⟩
          · rintro ⟨rfl | member, found⟩
            · rw [read] at found
              cases found
            · exact ⟨member, found⟩

theorem read_tests_eq_some :
    (Rule.firstOf d.tests).read s = some (v, rest) ↔
      Form.of d s ∈ d.forms ∧ ((Form.of d s).rule d).read s = some (v, rest) := by
  by_cases keyword : d = .extended ∧ headWord s = "include".toList
  · obtain ⟨rfl, said⟩ := keyword
    have form : Form.of .extended s = .everything := if_pos ⟨rfl, said⟩
    have first : (Form.everything.rule .extended).read s =
        some (.ok .everything, s.dropWhile isNameChar) := by
      have found : (word "include").read s = some ((), s.dropWhile isNameChar) :=
        (read_word_eq_some (by decide)).mpr ⟨said, rfl⟩
      simp only [Form.rule, constant, Rule.read_bind, found, Option.bind_some, Rule.read_pure]
    have among : Form.everything ∈ Dialect.extended.forms := by decide
    rw [form, tests_eq, show Dialect.extended.forms = .everything :: Dialect.extended.forms.tail
      from rfl, List.map_cons, Rule.read_firstOf_cons, first, Option.some_or]
    exact ⟨fun same => ⟨among, same⟩, And.right⟩
  · rw [tests_eq]
    apply Rule.read_firstOf_map
    rintro other member ⟨a, last⟩ read
    exact (form_of_read member (fun extended said => absurd ⟨extended, said⟩ keyword) read).symm

end Tests

end Grammar

end RecordSearch
