import RecordSearch.Proofs.Pattern.Expression
import RecordSearch.Proofs.Text.Layout

/-!
# Words with gaps in them

A word of a LIKE pattern on prose stands for words of a text.  What it stands for is said sign by
sign, without regard to the words and gaps that an index finds in the pattern.
-/

namespace RecordSearch

open RecordSearch.Text

/-- What a sign of a word stands for: `%` for any text, and every other sign for itself in lower
case. -/
def Glob.Sign (sign : Char) (text : List Char) : Prop := sign ≠ '%' → text = lower sign

/-- A word stands for the values that fall into texts for its signs, one after another. -/
def Glob (word value : List Char) : Prop :=
  ∃ texts, value = texts.flatten ∧ List.Forall₂ Glob.Sign word texts

def isGlobSign (c : Char) : Bool := isAlphanumeric c || c == '%'

/-- The words of a pattern: the runs of such signs that have a letter or digit among them. -/
def globs (pattern : List Char) : List (List Char) :=
  (pattern.splitOnP fun c => !isGlobSign c).filter fun word => word.any isAlphanumeric

section Split

variable {s rest word percents gap : List Char} {c : Char}

theorem Text.Blank.isGlobSign_eq_false (blank : Blank gap) (member : c ∈ gap) (other : c ≠ '%') :
    isGlobSign c = false := by
  rw [isGlobSign, blank c member, Bool.false_or]
  exact beq_false_of_ne other

theorem globs_append_cons (s rest : List Char) (apart : isGlobSign c = false) :
    globs (s ++ c :: rest) = globs s ++ globs rest := by
  rw [globs, List.splitOnP_append_cons s rest (by rw [apart]; rfl), List.filter_append]
  rfl

theorem globs_cons (rest : List Char) (apart : isGlobSign c = false) :
    globs (c :: rest) = globs rest := globs_append_cons [] rest apart

theorem globs_of_signs (signs : ∀ c ∈ word, isGlobSign c = true) :
    globs word = if word.any isAlphanumeric then [word] else [] := by
  rw [globs, List.splitOnP_eq_singleton fun c member => by rw [signs c member]; rfl,
    List.filter_singleton, Bool.cond_eq_ite]

theorem globs_of_blank (blank : Blank gap) : globs gap = [] := by
  have letterless {l : List Char} (blank : Blank l) : l.any isAlphanumeric = false :=
    List.any_eq_false.mpr fun c member => by rw [blank c member]; exact Bool.false_ne_true
  -- What was met since the last other sign has no letter in it either.
  suffices met : ∀ before, Blank before → (∀ c ∈ before, isGlobSign c = true) →
      globs (before ++ gap) = [] from met [] (List.forall_mem_nil _) (List.forall_mem_nil _)
  induction gap with
  | nil =>
      intro before blank signs
      rw [List.append_nil, globs_of_signs signs, letterless blank]
      rfl
  | cons c gap inductionHypothesis =>
      intro before blank' signs
      obtain ⟨first, later⟩ := List.forall_mem_cons.mp blank
      cases sign : isGlobSign c with
      | true =>
          rw [List.append_cons]
          exact inductionHypothesis later _
            (List.forall_mem_append.mpr ⟨blank', List.forall_mem_singleton.mpr first⟩)
            (List.forall_mem_append.mpr ⟨signs, List.forall_mem_singleton.mpr sign⟩)
      | false =>
          have none := inductionHypothesis later [] (List.forall_mem_nil _) (List.forall_mem_nil _)
          rw [List.nil_append] at none
          rw [globs_append_cons _ _ sign, globs_of_signs signs, letterless blank', none]
          rfl

theorem globs_word_append (signs : ∀ c ∈ word, isGlobSign c = true)
    (letter : word.any isAlphanumeric = true) (apart : ∀ c ∈ rest.head?, isGlobSign c = false) :
    globs (word ++ rest) = word :: globs rest := by
  cases rest with
  | nil =>
      rw [List.append_nil, globs_of_signs signs, if_pos letter]
      rfl
  | cons c rest =>
      have other := apart c rfl
      rw [globs_append_cons _ _ other, globs_of_signs signs, if_pos letter, globs_cons _ other]
      rfl

theorem globs_blank_append (blank : Blank gap) (apart : ∀ c ∈ gap.getLast?, isGlobSign c = false) :
    globs (gap ++ rest) = globs rest := by
  rcases List.eq_nil_or_concat' gap with rfl | ⟨before, c, rfl⟩
  · rfl
  · have other := apart c List.getLast?_concat
    have blank' : Blank before := fun d member => blank d (List.mem_append_left _ member)
    rw [List.append_assoc, List.singleton_append, globs_append_cons _ _ other,
      globs_of_blank blank', List.nil_append]

end Split

namespace Pattern

variable {p p' q q' : Pattern} {s word percents : List Char}

/-- A pattern after another one stands for what falls into parts that both stand for. -/
theorem matches_append_iff :
    Matches (p ++ q) s ↔ ∃ s₁ s₂, s = s₁ ++ s₂ ∧ Matches p s₁ ∧ Matches q s₂ := by
  induction p generalizing s with
  | nil =>
      constructor
      · intro stands
        exact ⟨[], s, rfl, .nil, stands⟩
      · rintro ⟨s₁, s₂, rfl, none, stands⟩
        cases none
        exact stands
  | cons item p inductionHypothesis =>
      have first {p : Pattern} {s : List Char} : Matches (item :: p) s ↔
          ∃ text rest, s = text ++ rest ∧ item.piece.Stands text ∧ Matches p rest := by
        simp only [matches_iff_stands, List.map_cons, stands_cons_iff]
      rw [List.cons_append, first]
      simp only [first, inductionHypothesis]
      constructor
      · rintro ⟨text, _, rfl, stands, s₁, s₂, rfl, later, last⟩
        exact ⟨text ++ s₁, s₂, (List.append_assoc ..).symm, ⟨text, s₁, rfl, stands, later⟩, last⟩
      · rintro ⟨_, s₂, rfl, ⟨text, s₁, rfl, stands, later⟩, last⟩
        exact ⟨text, s₁ ++ s₂, List.append_assoc .., stands, s₁, s₂, rfl, later, last⟩

/-- Two patterns stand for the same values. -/
def Alike (p q : Pattern) : Prop := ∀ s, Matches p s ↔ Matches q s

theorem Alike.refl (p : Pattern) : Alike p p := fun _ => Iff.rfl

theorem Alike.append (first : Alike p p') (second : Alike q q') : Alike (p ++ q) (p' ++ q') := by
  intro s
  simp only [matches_append_iff, first _, second _]

def ofGlob (word : List Char) : Pattern :=
  word.flatMap fun c => if c = '%' then [.run] else (lower c).map .char

theorem ofGlob_append (word word' : List Char) :
    ofGlob (word ++ word') = ofGlob word ++ ofGlob word' := List.flatMap_append

theorem ofGlob_of_plain (plain : '%' ∉ word) :
    ofGlob word = ofWord (String.ofList (word.flatMap lower)) := by
  rw [ofGlob, ofWord, String.toList_ofList, List.map_flatMap]
  apply List.flatMap_congr
  intro c member
  rw [if_neg (ne_of_mem_of_not_mem member plain)]

/-- Several runs are no more than one. -/
theorem alike_ofGlob_percents (filled : percents ≠ []) (each : ∀ c ∈ percents, c = '%') :
    Alike (ofGlob percents) [.run] := by
  intro s
  rw [← anything, matches_anything_iff]
  induction percents generalizing s with
  | nil => exact absurd rfl filled
  | cons c others inductionHypothesis =>
      obtain ⟨rfl, each'⟩ := List.forall_mem_cons.mp each
      have first : ofGlob ('%' :: others) = anything ++ ofGlob others := rfl
      rw [first]
      cases others with
      | nil => exact matches_anything_iff
      | cons d others =>
          have later := inductionHypothesis (List.cons_ne_nil d others) each'
          simp only [matches_append_iff, matches_anything_iff, later]
          constructor
          · rintro ⟨s₁, s₂, rfl, before, behind⟩
            exact List.not_mem_append before behind
          · intro oneLine
            exact ⟨[], s, rfl, List.not_mem_nil, oneLine⟩

/-- On one line, a word as a pattern stands for what the word does. -/
theorem matches_ofGlob_iff (oneLine : '\n' ∉ s) : Matches (ofGlob word) s ↔ Glob word s := by
  induction word generalizing s with
  | nil =>
      constructor
      · intro stands
        cases stands
        exact ⟨[], rfl, .nil⟩
      · rintro ⟨texts, rfl, each⟩
        cases each
        exact .nil
  | cons c word inductionHypothesis =>
      have sign {text : List Char} (oneLine : '\n' ∉ text) :
          Matches (ofGlob [c]) text ↔ Glob.Sign c text := by
        by_cases many : c = '%'
        · subst many
          rw [show ofGlob ['%'] = anything from rfl, matches_anything_iff]
          simp [oneLine, Glob.Sign]
        · have plain : '%' ∉ [c] := fun member => many (List.mem_singleton.mp member).symm
          rw [ofGlob_of_plain plain, matches_ofWord_iff, String.toList_ofList,
            List.flatMap_singleton, Glob.Sign]
          exact (imp_iff_right many).symm
      rw [← List.singleton_append, ofGlob_append, matches_append_iff, Glob,
        List.singleton_append, exists_flatten_cons_iff]
      constructor
      · rintro ⟨text, rest, rfl, first, later⟩
        rw [List.mem_append, not_or] at oneLine
        exact ⟨text, rest, rfl, (sign oneLine.1).mp first, (inductionHypothesis oneLine.2).mp later⟩
      · rintro ⟨text, rest, rfl, first, later⟩
        rw [List.mem_append, not_or] at oneLine
        exact ⟨text, rest, rfl, (sign oneLine.1).mpr first,
          (inductionHypothesis oneLine.2).mpr later⟩

end Pattern

end RecordSearch
