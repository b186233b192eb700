import RecordSearch.Proofs.Text.Words

/-!
# Texts without long words

If no word of a text is left out, the text is laid out as its kept words with the gaps before them
and a tail, where gaps and tail are the rest of the text and nothing but words stands between them.
-/

namespace RecordSearch.Text

open Analysis (Progress)

variable {s gap : List Char}

def Blank (gap : List Char) : Prop := ∀ c ∈ gap, isAlphanumeric c = false

structure Token.Spells (t : Token) (run : List Char) : Prop where
  filled : run ≠ []
  letters : ∀ c ∈ run, isAlphanumeric c = true
  word : t.word = String.ofList (run.flatMap lower)

/-- A text falls into words with the gaps before them, and a tail. -/
inductive LaidOut : List Char → List Token → List Char → Prop where
  | tail {gap : List Char} : Blank gap → LaidOut gap [] gap
  | word {t : Token} {run rest tail : List Char} {tokens : List Token} :
      Blank t.gap → t.Spells run → (∀ c ∈ rest.head?, isAlphanumeric c = false) →
      LaidOut rest tokens tail → LaidOut (t.gap ++ (run ++ rest)) (t :: tokens) tail

/-- Runs of which each is a word or a gap, and none goes on in the next one. -/
structure Alternates (remaining : List (List Char)) : Prop where
  filled : [] ∉ remaining
  alike : ∀ run ∈ remaining, ∀ c ∈ run, isAlphanumeric c = isWordRun run
  apart : remaining.IsChain fun run next => ∃ filled filled',
    (isAlphanumeric (run.getLast filled) == isAlphanumeric (next.head filled')) = false

theorem alternates_runs (s : List Char) : Alternates (runs s) := by
  obtain ⟨-, filled, -, apart⟩ := List.splitBy_eq_iff.mp (rfl : runs s = runs s)
  exact ⟨filled, fun run member c within => isAlphanumeric_of_mem_runs member within, apart⟩

namespace Alternates

variable {run : List Char} {remaining : List (List Char)}

theorem tail (alternates : Alternates (run :: remaining)) : Alternates remaining where
  filled member := alternates.filled (List.mem_cons_of_mem run member)
  alike other member := alternates.alike other (List.mem_cons_of_mem run member)
  apart := alternates.apart.tail

theorem head?_flatten (alternates : Alternates (run :: remaining)) (word : isWordRun run = true) :
    ∀ c ∈ remaining.flatten.head?, isAlphanumeric c = false := by
  intro c first
  cases remaining with
  | nil => cases first
  | cons next others =>
      obtain ⟨⟨filled, filled', differ⟩, -⟩ := List.isChain_cons_cons.mp alternates.apart
      have last := alternates.alike run List.mem_cons_self _ (List.getLast_mem filled)
      obtain ⟨d, next, rfl⟩ := List.exists_cons_of_ne_nil filled'
      obtain rfl : d = c := Option.some.inj first
      rw [last, word, List.head_cons] at differ
      simpa using differ

end Alternates

theorem laidOut_foldl_step {p : Progress} {remaining : List (List Char)}
    (alternates : Alternates remaining)
    (short : ∀ run ∈ remaining, isWordRun run = true →
      (String.ofList run).utf8ByteSize < longWord) (blank : Blank p.gap) :
    ∃ tokens, (remaining.foldl Progress.step p).kept = tokens.reverse ++ p.kept ∧
      LaidOut (p.gap ++ remaining.flatten) tokens (remaining.foldl Progress.step p).gap := by
  induction remaining generalizing p with
  | nil =>
      refine ⟨[], rfl, ?_⟩
      rw [List.flatten_nil, List.append_nil]
      exact .tail blank
  | cons run remaining inductionHypothesis =>
      have alike := alternates.alike run List.mem_cons_self
      have later : ∀ run ∈ remaining, isWordRun run = true →
          (String.ofList run).utf8ByteSize < longWord :=
        fun other member => short other (List.mem_cons_of_mem run member)
      rw [List.foldl_cons, List.flatten_cons, Progress.step, ← isWordRun]
      by_cases word : isWordRun run = true
      · rw [if_pos word, if_pos (short run List.mem_cons_self word)]
        obtain ⟨tokens, kept, laidOut⟩ := inductionHypothesis alternates.tail later
          (p := ⟨p.met + 1, ⟨String.ofList (run.flatMap lower), p.met, p.gap⟩ :: p.kept, []⟩)
          (List.forall_mem_nil _)
        have spells : Token.Spells ⟨String.ofList (run.flatMap lower), p.met, p.gap⟩ run := by
          refine ⟨?_, fun c within => (alike c within).trans word, rfl⟩
          rintro rfl
          exact alternates.filled List.mem_cons_self
        refine ⟨_ :: tokens, ?_, .word blank spells (alternates.head?_flatten word) laidOut⟩
        rw [kept, List.reverse_cons, List.append_assoc]
        rfl
      · rw [if_neg word]
        have longer : Blank (p.gap ++ run) := by
          refine List.forall_mem_append.mpr ⟨blank, fun c within => ?_⟩
          rw [alike c within, Bool.eq_false_iff]
          exact word
        obtain ⟨tokens, kept, laidOut⟩ := inductionHypothesis alternates.tail later
          (p := ⟨p.met, p.kept, p.gap ++ run⟩) longer
        refine ⟨tokens, kept, ?_⟩
        rw [← List.append_assoc]
        exact laidOut

/-- A text without long words is laid out as it is taken apart. -/
theorem laidOut_of (short : ∀ run ∈ wordRuns s, (String.ofList run).utf8ByteSize < longWord) :
    LaidOut s (Analysis.of s).tokens (Analysis.of s).tail := by
  obtain ⟨tokens, kept, laidOut⟩ := laidOut_foldl_step (p := ⟨0, [], []⟩) (alternates_runs s)
    (fun run member word => short run (List.mem_filter.mpr ⟨member, word⟩)) (List.forall_mem_nil _)
  have same : (Analysis.of s).tokens = tokens := by
    rw [Analysis.of]
    show List.reverse _ = tokens
    rw [kept, List.append_nil, List.reverse_reverse]
  have whole : (runs s).flatten = s := List.flatten_splitBy _ s
  rw [same]
  rwa [List.nil_append, whole] at laidOut

end RecordSearch.Text
