import RecordSearch.Grammar.Dialect
import RecordSearch.Proofs.Text.Scan

/-!
# What the combinators of rules read

The place where a rule was stuck plays no part in what it reads.  A repetition reads a list of
chunks if the rule reads each of them whole in front of the others.
-/

namespace RecordSearch.Grammar

open RecordSearch.Text

namespace Rule

variable {α β : Type}

@[simp]
theorem read_map (f : α → β) (rule : Rule α) (s : List Char) :
    (f <$> rule).read s = (rule.read s).map fun r => (f r.1, r.2) := by
  have unfolded := read_bind rule (pure ∘ f) s
  cases result : rule.read s with
  | none => rwa [result] at unfolded
  | some r => rwa [result] at unfolded

@[simp]
theorem read_firstOf_nil (s : List Char) : (firstOf ([] : List (Rule α))).read s = none := rfl

@[simp]
theorem read_firstOf_cons (rule : Rule α) (rules : List (Rule α)) (s : List Char) :
    (firstOf (rule :: rules)).read s = (rule.read s).or ((firstOf rules).read s) :=
  read_orElse rule _ s

theorem read_present_of_none {rule : Rule α} {s : List Char} (absent : rule.read s = none) :
    (present rule).read s = some (false, s) := by
  have unfolded := read_orElse (rule.bind fun _ => Rule.pure true) (fun _ => Rule.pure false) s
  have failed : (rule.bind fun _ => Rule.pure true).read s = none := by
    rw [show (rule.bind fun _ => Rule.pure true) = rule >>= fun _ => pure true from rfl]
    simp [absent]
  rw [failed, Option.none_or] at unfolded
  exact unfolded

theorem read_upTo_succ (rule : Rule α) (limit : Nat) (s : List Char) :
    (upTo rule (limit + 1)).read s =
      (((rule.read s).bind fun r =>
        ((upTo rule limit).read r.2).map fun later => (r.1 :: later.1, later.2)).or
          (some ([], s))) := by
  have unfolded := read_orElse
    (rule >>= fun a => upTo rule limit >>= fun as => (pure (a :: as) : Rule (List α)))
    (fun _ => pure []) s
  simp only [read_bind, read_pure] at unfolded
  refine Eq.trans unfolded ?_
  cases rule.read s with
  | none => rfl
  | some r =>
      simp only [Option.bind_some]
      cases (upTo rule limit).read r.2 <;> rfl

theorem read_upTo_of_none {rule : Rule α} {s : List Char} (failed : rule.read s = none)
    (limit : Nat) : (upTo rule limit).read s = some ([], s) := by
  cases limit with
  | zero => rfl
  | succ limit => simp [read_upTo_succ, failed]

section Repetition

variable {rule : Rule α} (Follows : List Char → Prop) (render : β → List Char) (result : β → α)

/-- A rule repeated over chunks that it reads one by one, up to a place where it fails. -/
theorem read_upTo_chunks {rest : List Char} (ended : rule.read rest = none)
    (follows : Follows rest) {chunks : List β}
    (opens : ∀ b ∈ chunks, ∀ tail, Follows (render b ++ tail))
    (reads : ∀ b ∈ chunks, ∀ tail, Follows tail →
      rule.read (render b ++ tail) = some (result b, tail))
    {limit : Nat} (enough : chunks.length ≤ limit) :
    (upTo rule limit).read (chunks.flatMap render ++ rest) = some (chunks.map result, rest) := by
  induction chunks generalizing limit with
  | nil => exact read_upTo_of_none ended limit
  | cons b chunks inductionHypothesis =>
      obtain ⟨limit, rfl⟩ : ∃ fewer, limit = fewer + 1 :=
        ⟨limit - 1, by simp only [List.length_cons] at enough; omega⟩
      have next : Follows (chunks.flatMap render ++ rest) := by
        cases chunks with
        | nil => exact follows
        | cons other chunks =>
            rw [List.flatMap_cons, List.append_assoc]
            exact opens other (by simp) _
      have here := reads b (by simp) _ next
      have later := inductionHypothesis
        (fun other member => opens other (List.mem_cons_of_mem b member))
        (fun other member => reads other (List.mem_cons_of_mem b member))
        (Nat.le_of_succ_le_succ enough)
      simp [read_upTo_succ, List.append_assoc, here, later]

theorem length_le_length_flatMap {chunks : List β} (filled : ∀ b ∈ chunks, render b ≠ []) :
    chunks.length ≤ (chunks.flatMap render).length := by
  induction chunks with
  | nil => simp
  | cons b chunks inductionHypothesis =>
      have here := List.length_pos_of_ne_nil (filled b (by simp))
      have later := inductionHypothesis fun other member =>
        filled other (List.mem_cons_of_mem b member)
      simp only [List.flatMap_cons, List.length_append, List.length_cons]
      omega

/-- A repetition has as many turns as there are characters, so chunks that are not empty are all
read. -/
theorem read_many_chunks {rest : List Char} (ended : rule.read rest = none)
    (follows : Follows rest) {chunks : List β} (filled : ∀ b ∈ chunks, render b ≠ [])
    (opens : ∀ b ∈ chunks, ∀ tail, Follows (render b ++ tail))
    (reads : ∀ b ∈ chunks, ∀ tail, Follows tail →
      rule.read (render b ++ tail) = some (result b, tail)) :
    (many rule).read (chunks.flatMap render ++ rest) = some (chunks.map result, rest) := by
  have enough := length_le_length_flatMap render filled
  refine read_upTo_chunks Follows render result ended follows opens reads ?_
  rw [List.length_append]
  omega

end Repetition

end Rule

@[simp]
theorem read_blanks (s : List Char) : blanks.read s = some ((), s.dropWhile isSpace) := rfl

@[simp]
theorem read_next {α : Type} (rule : Rule α) (s : List Char) :
    (next rule).read s = rule.read (s.dropWhile isSpace) := by
  simp [next]

@[simp]
theorem read_mark (c : Char) (s : List Char) :
    (mark c).read s = (Scan.char c s).map fun r => ((), r.2) := by
  simp only [mark, Rule.read_bind, Rule.read_ofScan, Rule.read_pure]
  cases Scan.char c s <;> rfl

@[simp]
theorem read_word (w : String) (s : List Char) :
    (word w).read s = (keyword w s).map fun r => ((), r.2) := by
  simp only [word, Rule.read_bind, Rule.read_token, Rule.read_pure]
  cases keyword w s <;> rfl

theorem read_next_of_stops {α : Type} {s : List Char} (rule : Rule α) (stops : Stops isSpace s) :
    (next rule).read s = rule.read s := by
  rw [read_next, stops.dropWhile]

theorem read_next_blank {α : Type} {s : List Char} (rule : Rule α) (stops : Stops isSpace s) :
    (next rule).read (' ' :: s) = rule.read s := by
  rw [read_next, List.dropWhile_cons_of_pos (by decide), stops.dropWhile]

/-- Items between separators are read if each item is read whole in front of a separator and in
front of what ends the list. -/
theorem read_separated {α β : Type} {separator : Rule Unit} {item : Rule α}
    (Follows : List Char → Prop) (render : β → List Char) (result : β → α)
    {between rest : List Char} (filled : between ≠ [])
    (opens : ∀ tail, Follows (between ++ tail)) (follows : Follows rest)
    (ended : (next (do separator; next item)).read rest = none) {first : β} {others : List β}
    (joins : ∀ b ∈ others, ∀ tail, (next (do separator; next item)).read
      (between ++ (render b ++ tail)) = item.read (render b ++ tail))
    (reads : ∀ b ∈ first :: others, ∀ tail, Follows tail →
      item.read (render b ++ tail) = some (result b, tail)) :
    (separated separator item).read
      (render first ++ (others.flatMap (fun b => between ++ render b) ++ rest)) =
        some ((first :: others).map result, rest) := by
  have later := Rule.read_many_chunks Follows (fun b => between ++ render b) result ended follows
    (fun b member => List.append_ne_nil_of_left_ne_nil filled _)
    (fun b member tail => by
      rw [List.append_assoc]
      exact opens _)
    (fun b member tail followed => by
      rw [List.append_assoc, joins b member]
      exact reads b (List.mem_cons_of_mem first member) tail followed)
  have here : item.read (render first ++ (others.flatMap (fun b => between ++ render b) ++ rest)) =
      some (result first, others.flatMap (fun b => between ++ render b) ++ rest) := by
    refine reads first (by simp) _ ?_
    cases others with
    | nil => exact follows
    | cons other others =>
        rw [List.flatMap_cons, List.append_assoc, List.append_assoc]
        exact opens _
  simp only [separated, Rule.read_bind, here, Option.bind_some, later, Rule.read_pure,
    List.map_cons]

end RecordSearch.Grammar
