import RecordSearch.Proofs.Grammar.Composition
import RecordSearch.Proofs.Grammar.Single

/-!
# Texts that are laid out as words with blanks between them

A rule that is made of rules for words reads the words one after another, however many blanks stand
before each of them.  So what it reads is said of the words and not of the text.
-/

namespace RecordSearch.Grammar

open RecordSearch.Text

variable {α β : Type} {d : Dialect} {s rest : List Char}

structure Written (rule : Rule α) where
  text : List Char
  meaning : α
  reads : rule.read text = some (meaning, [])

inductive Spaced : List (List Char) → List Char → Prop where
  | nil : Spaced [] []
  | cons (gap : Gap) (word : List Char) {words : List (List Char)} {rest : List Char}
      (later : Spaced words rest) : Spaced (word :: words) (gap.text ++ (word ++ rest))

section Parts

variable {rule : Rule α}

theorem spaced_flatMap (words : List (List Char)) :
    Spaced words (words.flatMap (' ' :: ·)) := by
  induction words with
  | nil => exact .nil
  | cons word words inductionHypothesis =>
      rw [List.flatMap_cons]
      exact .cons ⟨[' '], by decide, List.all_eq_true.mp rfl⟩ word inductionHypothesis

theorem Spaced.parted {words : List (List Char)} (spaced : Spaced words s) : Parted s := by
  cases spaced with
  | nil => rintro c ⟨⟩
  | cons gap word later => exact gap.parted _

theorem Written.read (w : Written rule) (keeps : rule.Keeps rest) :
    rule.read (w.text ++ rest) = some (w.meaning, rest) :=
  keeps w.text w.meaning [] w.reads

/-- A rule for a word: it begins with no blank and ends where words are parted. -/
structure Solid (rule : Rule α) : Prop where
  keeps : ∀ {t : List Char}, Parted t → rule.Keeps t
  opens : ∀ {s : List Char} {a : α} {rest : List Char}, rule.read s = some (a, rest) →
    ∃ c later, s = c :: later ∧ isSpace c = false

theorem solid_word {w : String} (letters : IsWord w) (filled : w.toList ≠ []) :
    Solid (word w) where
  keeps parted := keeps_word parted letters
  opens {s} _ _ read := by
    obtain ⟨said, -⟩ := (read_word_eq_some letters).mp read
    cases s with
    | nil => exact absurd said.symm filled
    | cons c s =>
        have start := isNameStart_of_headWord letters filled said
        exact ⟨c, s, rfl, isSpace_of_class start (by decide) (by decide) (by decide) (by decide)⟩

theorem solid_quoted : Solid quoted where
  keeps := keeps_quoted
  opens read := by
    obtain ⟨later, rfl⟩ := head_of_read_quoted read
    exact ⟨_, later, rfl, rfl⟩

theorem solid_value : Solid value where
  keeps := keeps_value
  opens read := by
    obtain ⟨c, later, rfl, start⟩ := head_of_read_value read
    exact ⟨c, later, rfl, isSpace_of_class start (by decide) (by decide) (by decide) (by decide)⟩

theorem solid_comparisonOp : Solid comparisonOp where
  keeps := keeps_comparisonOp
  opens read := by
    simp only [comparisonOp, Rule.read_token] at read
    split at read <;> first | exact ⟨_, _, rfl, rfl⟩ | cases read

theorem solid_attr (d : Dialect) : Solid d.attr where
  keeps parted := keeps_attr parted d
  opens read := by
    have head := attributeHead_of_attr read
    obtain ⟨c, later, rfl⟩ := List.exists_cons_of_ne_nil head.filled
    refine ⟨c, later, rfl, ?_⟩
    rcases head.start c rfl with start | rfl
    · exact isSpace_of_class start (by decide) (by decide) (by decide) (by decide)
    · rfl

theorem Solid.stops (solid : Solid rule) (w : Written rule) (rest : List Char) :
    Stops isSpace (w.text ++ rest) := by
  obtain ⟨c, later, text, letter⟩ := solid.opens w.reads
  rw [text]
  exact stops_cons.mpr letter

def keywordText {taken w : String} (spells : Spells taken w) : Written (word w) where
  text := taken.toList
  meaning := ()
  reads := by
    have read := spells.read (stops_nil (p := isNameChar))
    rwa [List.append_nil] at read

def operatorText (op : Comparison) : Written comparisonOp where
  text := op.symbol.toList
  meaning := op
  reads := by cases op <;> rfl

end Parts

section Spans

/-- A rule reads some words to the end of the last one, whatever words follow. -/
def Rule.Spans (rule : Rule α) (words : List (List Char)) (a : α) : Prop :=
  ∀ (more : List (List Char)) (s : List Char), Spaced (words ++ more) s →
    ∃ rest, Spaced more rest ∧ rule.read s = some (a, rest)

variable {rule : Rule α} {words words' : List (List Char)} {a : α} {b : β}

theorem Rule.Spans.pure (a : α) : (pure a : Rule α).Spans [] a :=
  fun _ s spaced => ⟨s, spaced, rfl⟩

theorem Rule.Spans.bind {f : α → Rule β} (first : rule.Spans words a)
    (later : (f a).Spans words' b) : (rule >>= f).Spans (words ++ words') b := by
  intro more s spaced
  rw [List.append_assoc] at spaced
  obtain ⟨mid, behind, here⟩ := first _ s spaced
  obtain ⟨rest, last, there⟩ := later more mid behind
  exact ⟨rest, last, read_bind_eq_some.mpr ⟨a, mid, here, there⟩⟩

theorem Rule.Spans.next_bind {f : α → Rule β} (spans : (next rule >>= f).Spans words b) :
    (next (rule >>= f)).Spans words b := by
  intro more s spaced
  obtain ⟨rest, last, read⟩ := spans _ s spaced
  refine ⟨rest, last, ?_⟩
  rwa [read_bind, read_next, ← read_bind, ← read_next] at read

theorem Rule.Spans.of_read {word : List Char} (opens : ∀ rest, Stops isSpace (word ++ rest))
    (reads : ∀ rest, Parted rest → rule.read (word ++ rest) = some (a, rest)) :
    (next rule).Spans [word] a := by
  intro more s spaced
  cases spaced with
  | @cons gap word words rest later =>
      refine ⟨rest, later, ?_⟩
      rw [read_next, gap.dropWhile, (opens rest).dropWhile]
      exact reads rest later.parted

theorem Solid.spans (solid : Solid rule) (w : Written rule) :
    (next rule).Spans [w.text] w.meaning :=
  .of_read (solid.stops w) fun _ parted => w.read (solid.keeps parted)

theorem Rule.Spans.read (spans : rule.Spans words a) (spaced : Spaced words s) :
    rule.read s = some (a, []) := by
  rw [← List.append_nil words] at spaced
  obtain ⟨rest, last, read⟩ := spans _ s spaced
  cases last
  exact read

def listText {rule : Rule α} (items : List (Written rule)) : List Char :=
  '(' :: (RecordSearch.joined ", ".toList (items.map Written.text) ++ [')'])

theorem Solid.spans_listOf (solid : Solid rule) {items : List (Written rule)}
    (filled : items ≠ []) :
    (next (listOf rule)).Spans [listText items] (items.map Written.meaning) := by
  apply Rule.Spans.of_read
  · exact fun rest => stops_cons.mpr (by decide)
  · intro rest parted
    have read := read_listOf filled (fun w _ rest parted => w.read (solid.keeps parted))
      (fun w _ => solid.stops w) rest
    rw [listText, List.cons_append, List.append_assoc]
    exact read

end Spans

end RecordSearch.Grammar
