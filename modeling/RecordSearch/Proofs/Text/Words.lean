import Mathlib.Data.List.SplitBy
import Mathlib.Data.List.Induction
import RecordSearch.Proofs.Text.Case
import RecordSearch.Text.Analysis

/-!
# Words of a text that is cut

`wordRuns` lists the words of a text, long ones too, as they are written.  A text that is cut where
no word is cut has the words of its two parts one after another; places and terms of the kept words
follow from that equation alone.  Neither of them depends on the case of ASCII letters.
-/

namespace RecordSearch.Text

variable {s t gap : List Char}

def isWordRun (run : List Char) : Bool := (run.head?.map isAlphanumeric).getD false

def wordRuns (s : List Char) : List (List Char) := (runs s).filter isWordRun

/-- A text is cut within a word. -/
def CutsWord (before after : List Char) : Prop :=
  ∃ a ∈ before.getLast?, ∃ b ∈ after.head?, isAlphanumeric a = true ∧ isAlphanumeric b = true

/-- The characters of a run are all like its first one. -/
theorem isAlphanumeric_of_mem_runs {run : List Char} {c : Char} (member : run ∈ runs s)
    (within : c ∈ run) : isAlphanumeric c = isWordRun run := by
  have alike := (List.splitBy_eq_iff.mp (rfl : runs s = runs s)).2.2.1 run member
  refine alike.induction (isAlphanumeric · = isWordRun run) run (fun x y same first => ?_)
    (fun filled => ?_) c within
  · rwa [← beq_iff_eq.mp same]
  · cases run with
    | nil => exact absurd rfl filled
    | cons d run => rfl

theorem isAlphanumeric_of_mem_wordRuns {run : List Char} {c : Char} (word : run ∈ wordRuns s)
    (within : c ∈ run) : isAlphanumeric c = true := by
  obtain ⟨member, letters⟩ := List.mem_filter.mp word
  rw [isAlphanumeric_of_mem_runs member within, letters]

section Cuts

theorem wordRuns_of_gap (outside : ∀ c ∈ gap, isAlphanumeric c = false) : wordRuns gap = [] := by
  apply List.filter_eq_nil_iff.mpr
  intro run member
  cases run with
  | nil => simp [isWordRun]
  | cons c run =>
      have within : c ∈ gap := by
        rw [← List.flatten_splitBy (fun a b => isAlphanumeric a == isAlphanumeric b) gap]
        exact List.mem_flatten_of_mem member List.mem_cons_self
      simp [isWordRun, outside c within]

/-- Where a word begins or ends, words are not joined. -/
theorem wordRuns_append_of_apart
    (apart : ∀ a ∈ s.getLast?, ∀ b ∈ t.head?, isAlphanumeric a ≠ isAlphanumeric b) :
    wordRuns (s ++ t) = wordRuns s ++ wordRuns t := by
  have cut : runs (s ++ t) = runs s ++ runs t :=
    List.splitBy_append fun a last b first => beq_false_of_ne (apart a last b first)
  rw [wordRuns, cut, List.filter_append]
  rfl

theorem wordRuns_append_gap (outside : ∀ c ∈ gap, isAlphanumeric c = false) :
    wordRuns (s ++ gap) = wordRuns s := by
  induction s using List.reverseRecOn generalizing gap with
  | nil => exact wordRuns_of_gap outside
  | append_singleton s a inductionHypothesis =>
      cases letter : isAlphanumeric a with
      | true =>
          have apart : ∀ x ∈ (s ++ [a]).getLast?, ∀ b ∈ gap.head?,
              isAlphanumeric x ≠ isAlphanumeric b := by
            intro x last b first
            obtain rfl : a = x := by simpa using last
            rw [letter, outside b (List.mem_of_mem_head? first)]
            exact Bool.false_ne_true.symm
          rw [wordRuns_append_of_apart apart, wordRuns_of_gap outside, List.append_nil]
      | false =>
          -- Such a character belongs to the gap, with or without the rest of it.
          have longer : ∀ c ∈ a :: gap, isAlphanumeric c = false :=
            List.forall_mem_cons.mpr ⟨letter, outside⟩
          have single : ∀ c ∈ [a], isAlphanumeric c = false := List.forall_mem_singleton.mpr letter
          rw [List.append_assoc, List.singleton_append, inductionHypothesis longer,
            inductionHypothesis single]

/-- A text that is cut where no word is cut has the words of its parts. -/
theorem wordRuns_append (whole : ¬ CutsWord s t) :
    wordRuns (s ++ t) = wordRuns s ++ wordRuns t := by
  induction t generalizing s with
  | nil =>
      have empty : wordRuns [] = [] := rfl
      rw [empty, List.append_nil, List.append_nil]
  | cons b t inductionHypothesis =>
      cases letter : isAlphanumeric b with
      | true =>
          apply wordRuns_append_of_apart
          intro a last x first same
          obtain rfl : b = x := by simpa using first
          exact whole ⟨a, last, b, first, same.trans letter, letter⟩
      | false =>
          have single : ∀ c ∈ [b], isAlphanumeric c = false := List.forall_mem_singleton.mpr letter
          have past (before : List Char) : ¬ CutsWord (before ++ [b]) t := by
            rintro ⟨a, last, x, first, within, -⟩
            obtain rfl : b = a := by simpa using last
            rw [letter] at within
            exact Bool.false_ne_true within
          have alone : wordRuns (b :: t) = wordRuns t := by
            have cut := inductionHypothesis (past [])
            rwa [List.nil_append, wordRuns_of_gap single, List.nil_append] at cut
          rw [List.append_cons, inductionHypothesis (past s), wordRuns_append_gap single, alone]

end Cuts

section Terms

theorem utf8ByteSize_ofList_le (l : List Char) :
    (String.ofList l).utf8ByteSize ≤ 4 * l.length := by
  induction l with
  | nil => exact Nat.le_refl 0
  | cons c l inductionHypothesis =>
      have letter := c.utf8Size_le_four
      rw [String.ofList_cons, String.utf8ByteSize_append, String.utf8ByteSize_singleton,
        List.length_cons]
      omega

def keptTerm (w : List Char × Nat) : Option (Nat × String) :=
  if (String.ofList w.1).utf8ByteSize < longWord then
    some (w.2, String.ofList (w.1.flatMap lower))
  else none

def Token.term (t : Token) : Nat × String := (t.position, t.word)

open Analysis (Progress)

variable {p : Progress} {remaining : List (List Char)}

theorem kept_foldl_step :
    (remaining.foldl Progress.step p).kept.reverse.map Token.term =
      p.kept.reverse.map Token.term ++
        ((remaining.filter isWordRun).zipIdx p.met).filterMap keptTerm := by
  induction remaining generalizing p with
  | nil => simp
  | cons run remaining inductionHypothesis =>
      rw [List.foldl_cons, inductionHypothesis, Progress.step, ← isWordRun]
      by_cases word : isWordRun run = true
      · rw [List.filter_cons_of_pos word, List.zipIdx_cons, List.filterMap_cons, if_pos word]
        by_cases short : (String.ofList run).utf8ByteSize < longWord
        · simp [short, keptTerm, Token.term]
        · simp [short, keptTerm]
      · rw [List.filter_cons_of_neg word, if_neg word]

theorem terms_tokens (s : List Char) :
    (Analysis.of s).tokens.map Token.term = (wordRuns s).zipIdx.filterMap keptTerm := by
  have folded := @kept_foldl_step ⟨0, [], []⟩ (runs s)
  simpa [Analysis.of, wordRuns] using folded

theorem exists_wordRun_of_mem_tokens {t : Token} (member : t ∈ (Analysis.of s).tokens) :
    ∃ run ∈ wordRuns s, t.word = String.ofList (run.flatMap lower) := by
  have term := List.mem_map_of_mem (f := Token.term) member
  rw [terms_tokens, List.mem_filterMap] at term
  obtain ⟨⟨run, position⟩, placed, kept⟩ := term
  rw [keptTerm] at kept
  split at kept
  · exact ⟨run, List.fst_mem_of_mem_zipIdx placed,
      (congrArg Prod.snd (Option.some.inj kept)).symm⟩
  · cases kept

theorem lineFeed_not_mem_word {t : Token} (member : t ∈ (Analysis.of s).tokens) :
    '\n' ∉ t.word.toList := by
  obtain ⟨run, word, same⟩ := exists_wordRun_of_mem_tokens member
  have blank : isAlphanumeric '\n' = false := by decide
  rw [same, String.toList_ofList, List.mem_flatMap]
  rintro ⟨c, within, image⟩
  refine lineFeed_not_mem_lower ?_ image
  rintro rfl
  rw [isAlphanumeric_of_mem_wordRuns word within] at blank
  cases blank

theorem keptTerm_zipIdx (words : List (List Char)) (start : Nat) :
    (words.zipIdx start).filterMap keptTerm =
      (words.zipIdx.filterMap keptTerm).map fun t => (start + t.1, t.2) := by
  rw [List.zipIdx_eq_map_add, List.filterMap_map, List.map_filterMap]
  congr 1
  funext w
  simp only [Function.comp_apply, keptTerm]
  split <;> rfl

/-- Nothing stands between words that does not stand in the text. -/
theorem gaps_foldl_step {good : Char → Prop} (runsGood : ∀ run ∈ remaining, ∀ c ∈ run, good c)
    (keptGood : ∀ t ∈ p.kept, ∀ c ∈ t.gap, good c) (gapGood : ∀ c ∈ p.gap, good c) :
    (∀ t ∈ (remaining.foldl Progress.step p).kept, ∀ c ∈ t.gap, good c) ∧
      ∀ c ∈ (remaining.foldl Progress.step p).gap, good c := by
  induction remaining generalizing p with
  | nil => exact ⟨keptGood, gapGood⟩
  | cons run remaining inductionHypothesis =>
      have longer : ∀ c ∈ p.gap ++ run, good c :=
        List.forall_mem_append.mpr ⟨gapGood, runsGood run List.mem_cons_self⟩
      have laterGood : ∀ run ∈ remaining, ∀ c ∈ run, good c :=
        fun run member => runsGood run (List.mem_cons_of_mem _ member)
      apply inductionHypothesis laterGood
      · rw [Progress.step]
        split
        · split
          · exact List.forall_mem_cons.mpr ⟨gapGood, keptGood⟩
          · exact keptGood
        · exact keptGood
      · rw [Progress.step]
        split
        · split
          · simp
          · exact longer
        · exact longer

theorem gaps_of {good : Char → Prop} (each : ∀ c ∈ s, good c) :
    (∀ t ∈ (Analysis.of s).tokens, ∀ c ∈ t.gap, good c) ∧
      ∀ c ∈ (Analysis.of s).tail, good c := by
  have runsGood : ∀ run ∈ runs s, ∀ c ∈ run, good c := by
    intro run member c within
    apply each
    rw [← List.flatten_splitBy (fun a b => isAlphanumeric a == isAlphanumeric b) s]
    exact List.mem_flatten_of_mem member within
  obtain ⟨kept, tail⟩ :=
    gaps_foldl_step (p := ⟨0, [], []⟩) runsGood (by simp) (by simp)
  exact ⟨fun t member => kept t (List.mem_reverse.mp member), tail⟩

end Terms

section LetterCase

theorem exists_of_isAsciiUpper {c : Char} (upper : isAsciiUpper c = true) :
    ∃ k : Fin 26, c = Char.ofNat (65 + k) := by
  simp only [isAsciiUpper, Bool.and_eq_true, decide_eq_true_eq] at upper
  have first : 65 ≤ c.toNat := upper.1
  have last : c.toNat ≤ 90 := upper.2
  refine ⟨⟨c.toNat - 65, by omega⟩, ?_⟩
  rw [show 65 + (c.toNat - 65) = c.toNat by omega, Char.ofNat_toNat]

/-- Letter case of ASCII letters does not matter to a function if it does not to the capitals. -/
theorem eq_asciiLower_of_capitals {α : Type} {f : Char → α}
    (capitals : ∀ k : Fin 26, f (asciiLower (Char.ofNat (65 + k))) = f (Char.ofNat (65 + k)))
    (c : Char) : f (asciiLower c) = f c := by
  by_cases upper : isAsciiUpper c = true
  · obtain ⟨k, rfl⟩ := exists_of_isAsciiUpper upper
    exact capitals k
  · rw [asciiLower, if_neg upper]

theorem isAlphanumeric_asciiLower (c : Char) : isAlphanumeric (asciiLower c) = isAlphanumeric c :=
  eq_asciiLower_of_capitals (by decide) c

theorem utf8Size_asciiLower (c : Char) : (asciiLower c).utf8Size = c.utf8Size :=
  eq_asciiLower_of_capitals (by decide) c

theorem lower_asciiLower (c : Char) : lower (asciiLower c) = lower c :=
  eq_asciiLower_of_capitals (by decide) c

theorem runs_map_asciiLower (s : List Char) :
    runs (s.map asciiLower) = (runs s).map (List.map asciiLower) := by
  obtain ⟨whole, filled, alike, apart⟩ := List.splitBy_eq_iff.mp (rfl : runs s = runs s)
  apply List.splitBy_eq_iff.mpr
  refine ⟨?_, ?_, ?_, ?_⟩
  · rw [← List.map_flatten, ← whole]
  · simpa using filled
  · intro run member
    obtain ⟨original, within, rfl⟩ := List.mem_map.mp member
    rw [List.isChain_map]
    simpa only [isAlphanumeric_asciiLower] using alike original within
  · rw [List.isChain_map]
    refine apart.imp fun run later => ?_
    rintro ⟨filled, filled', differ⟩
    refine ⟨by simpa using filled, by simpa using filled', ?_⟩
    rwa [List.getLast_map, List.head_map, isAlphanumeric_asciiLower, isAlphanumeric_asciiLower]

theorem wordRuns_map_asciiLower (s : List Char) :
    wordRuns (s.map asciiLower) = (wordRuns s).map (List.map asciiLower) := by
  rw [wordRuns, runs_map_asciiLower, List.filter_map]
  congr 2
  funext run
  cases run with
  | nil => rfl
  | cons c run => exact isAlphanumeric_asciiLower c

theorem keptTerm_map_asciiLower (w : List Char × Nat) :
    keptTerm (w.1.map asciiLower, w.2) = keptTerm w := by
  have size (run : List Char) : (String.ofList (run.map asciiLower)).utf8ByteSize =
      (String.ofList run).utf8ByteSize := by
    induction run with
    | nil => rfl
    | cons c run inductionHypothesis =>
        rw [List.map_cons, String.ofList_cons, String.ofList_cons, String.utf8ByteSize_append,
          String.utf8ByteSize_append, String.utf8ByteSize_singleton, String.utf8ByteSize_singleton,
          utf8Size_asciiLower, inductionHypothesis]
  have word : (w.1.map asciiLower).flatMap lower = w.1.flatMap lower := by
    rw [List.flatMap_map]
    congr 1
    funext c
    exact lower_asciiLower c
  simp only [keptTerm, size, word]

theorem terms_tokens_of_map_asciiLower (same : s.map asciiLower = t.map asciiLower) :
    (Analysis.of s).tokens.map Token.term = (Analysis.of t).tokens.map Token.term := by
  have lowered (s : List Char) : (wordRuns s).zipIdx.filterMap keptTerm =
      (wordRuns (s.map asciiLower)).zipIdx.filterMap keptTerm := by
    rw [wordRuns_map_asciiLower, List.zipIdx_map, List.filterMap_map]
    congr 1
    funext w
    exact (keptTerm_map_asciiLower w).symm
  rw [terms_tokens, terms_tokens, lowered s, lowered t, same]

end LetterCase

section Excerpts

/-- A part of a text that neither begins nor ends within a word. -/
def Excerpt (part whole : List Char) : Prop :=
  ∃ before after, whole = before ++ (part ++ after) ∧ ¬ CutsWord before (part ++ after) ∧
    ¬ CutsWord (before ++ part) after

theorem CutsWord.append {before after : List Char} (cuts : CutsWord s after) :
    CutsWord (before ++ s) after := by
  obtain ⟨a, last, b, first, letters⟩ := cuts
  refine ⟨a, ?_, b, first, letters⟩
  rw [List.getLast?_append, last]
  rfl

/-- The terms of an excerpt are terms of the whole, moved by the words before it. -/
theorem Excerpt.terms_tokens (excerpt : Excerpt s t) :
    ∃ shift, ∀ w ∈ (Analysis.of s).tokens.map Token.term,
      (shift + w.1, w.2) ∈ (Analysis.of t).tokens.map Token.term := by
  obtain ⟨before, after, rfl, beginning, ending⟩ := excerpt
  have split : wordRuns (before ++ (s ++ after)) =
      wordRuns before ++ (wordRuns s ++ wordRuns after) := by
    rw [wordRuns_append beginning, wordRuns_append fun cuts => ending cuts.append]
  refine ⟨(wordRuns before).length, fun w member => ?_⟩
  rw [Text.terms_tokens] at member
  rw [Text.terms_tokens, split, List.zipIdx_append, List.zipIdx_append, List.filterMap_append,
    List.filterMap_append, Nat.zero_add, keptTerm_zipIdx (wordRuns s)]
  apply List.mem_append_right
  apply List.mem_append_left
  exact List.mem_map_of_mem member

end Excerpts

end RecordSearch.Text
