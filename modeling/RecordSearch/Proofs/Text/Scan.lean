import Mathlib.Data.List.Basic
import Mathlib.Data.List.TakeWhile
import RecordSearch.Text.Scan

/-!
# Scans of a text that is put together

What a scan takes from a text `s ++ rest`, where `s` is what it is meant to take and `rest` begins
with a character that ends it.
-/

namespace RecordSearch.Text

variable {p : Char → Bool} {s rest : List Char}

theorem ne_of_class {c d : Char} (inClass : p c = true) (outside : p d = false) : c ≠ d := by
  rintro rfl
  rw [outside] at inClass
  exact Bool.false_ne_true inClass

/-- A text does not begin with a character of a class. -/
def Stops (p : Char → Bool) (rest : List Char) : Prop := ∀ c ∈ rest.head?, p c = false

@[simp]
theorem stops_nil : Stops p [] := by simp [Stops]

@[simp]
theorem stops_cons {c : Char} : Stops p (c :: rest) ↔ p c = false := by simp [Stops]

theorem Stops.mono {q : Char → Bool} (stops : Stops q rest)
    (included : ∀ c, p c = true → q c = true) : Stops p rest := by
  intro c head
  have outside := stops c head
  cases inClass : p c with
  | false => rfl
  | true => rw [included c inClass] at outside; exact outside

theorem Stops.head_ne (stops : Stops p rest) {c : Char} (inClass : p c = true) :
    ∀ d ∈ rest.head?, d ≠ c :=
  fun d head same => ne_of_class inClass (stops d head) same.symm

theorem Stops.takeWhile (stops : Stops p rest) : rest.takeWhile p = [] := by
  cases rest with
  | nil => rfl
  | cons c rest => simp [stops_cons.mp stops]

theorem Stops.dropWhile (stops : Stops p rest) : rest.dropWhile p = rest := by
  cases rest with
  | nil => rfl
  | cons c rest => simp [stops_cons.mp stops]

theorem takeWhile_append_stops (run : ∀ c ∈ s, p c = true) (stops : Stops p rest) :
    (s ++ rest).takeWhile p = s := by
  rw [List.takeWhile_append_of_pos run, stops.takeWhile, List.append_nil]

theorem dropWhile_append_stops (run : ∀ c ∈ s, p c = true) (stops : Stops p rest) :
    (s ++ rest).dropWhile p = rest := by
  rw [List.dropWhile_append_of_pos run, stops.dropWhile]

theorem stops_dropWhile (s : List Char) : Stops p (s.dropWhile p) := by
  induction s with
  | nil => simp
  | cons c s inductionHypothesis =>
      by_cases inClass : p c = true
      · simpa [inClass] using inductionHypothesis
      · simp [inClass]

/-- A class that `rest` does not begin with is dropped from what stands before it alone. -/
theorem Stops.dropWhile_append (stops : Stops p rest) (s : List Char) :
    (s ++ rest).dropWhile p = s.dropWhile p ++ rest := by
  induction s with
  | nil => exact stops.dropWhile
  | cons c s inductionHypothesis =>
      by_cases inClass : p c = true
      · simpa only [List.cons_append, List.dropWhile_cons, inClass, if_true]
          using inductionHypothesis
      · simp only [List.cons_append, List.dropWhile_cons, inClass, Bool.false_eq_true, if_false]

theorem Stops.takeWhile_append (stops : Stops p rest) (s : List Char) :
    (s ++ rest).takeWhile p = s.takeWhile p := by
  induction s with
  | nil => exact stops.takeWhile
  | cons c s inductionHypothesis =>
      by_cases inClass : p c = true
      · simpa only [List.cons_append, List.takeWhile_cons, inClass, if_true, List.cons.injEq,
          true_and] using inductionHypothesis
      · simp only [List.cons_append, List.takeWhile_cons, inClass, Bool.false_eq_true, if_false]

namespace Scan

@[simp]
theorem char_cons (c : Char) (rest : List Char) : char c (c :: rest) = Option.some ([c], rest) := by
  simp [char]

theorem char_eq_none {c : Char} (other : ∀ d ∈ rest.head?, d ≠ c) : char c rest = none := by
  cases rest with
  | nil => rfl
  | cons d rest =>
      have apart : d ≠ c := other d rfl
      simp [char, apart]

theorem char_eq_some {c : Char} {taken : List Char}
    (read : char c s = Option.some (taken, rest)) : taken = [c] ∧ s = c :: rest := by
  cases s with
  | nil => cases read
  | cons d s =>
      by_cases same : d = c
      · subst same
        rw [char_cons] at read
        cases read
        exact ⟨rfl, rfl⟩
      · simp [char, same] at read

theorem exactly_append (run : ∀ c ∈ s, p c = true) (rest : List Char) :
    exactly p s.length (s ++ rest) = Option.some (s, rest) := by
  induction s with
  | nil => rfl
  | cons c s inductionHypothesis =>
      have later := inductionHypothesis fun d member => run d (List.mem_cons_of_mem c member)
      simp [exactly, run c (by simp), later]

theorem exactly_eq_some {n : Nat} {taken : List Char}
    (read : exactly p n s = Option.some (taken, rest)) :
    s = taken ++ rest ∧ ∀ c ∈ taken, p c = true := by
  induction n generalizing s taken with
  | zero =>
      obtain ⟨rfl, rfl⟩ : [] = taken ∧ s = rest := by simpa [exactly] using read
      simp
  | succ n inductionHypothesis =>
      cases s with
      | nil => simp [exactly] at read
      | cons c s =>
          by_cases inClass : p c = true
          · simp only [exactly, inClass, if_true, Option.map_eq_some_iff, Prod.exists,
              Prod.mk.injEq] at read
            obtain ⟨taken, rest, read, rfl, rfl⟩ := read
            obtain ⟨rfl, run⟩ := inductionHypothesis read
            exact ⟨rfl, by simpa [inClass] using run⟩
          · simp [exactly, inClass] at read

theorem length_of_exactly {n : Nat} {taken : List Char}
    (read : exactly p n s = Option.some (taken, rest)) : taken.length = n := by
  induction n generalizing s taken with
  | zero =>
      cases read
      rfl
  | succ n inductionHypothesis =>
      cases s with
      | nil => cases read
      | cons c s =>
          cases inClass : p c with
          | false => simp [exactly, inClass] at read
          | true =>
              simp only [exactly, inClass, if_true, Option.map_eq_some_iff, Prod.exists,
                Prod.mk.injEq] at read
              obtain ⟨taken, rest, later, rfl, rfl⟩ := read
              rw [List.length_cons, inductionHypothesis later]

theorem some_append (filled : s ≠ []) (run : ∀ c ∈ s, p c = true) (stops : Stops p rest) :
    some p (s ++ rest) = Option.some (s, rest) := by
  unfold some
  rw [takeWhile_append_stops run stops, dropWhile_append_stops run stops]
  cases s with
  | nil => exact absurd rfl filled
  | cons c s => rfl

theorem some_eq_none (stops : Stops p rest) : some p rest = none := by
  unfold some
  rw [stops.takeWhile]

theorem some_eq_some {taken : List Char} (read : some p s = Option.some (taken, rest)) :
    s = taken ++ rest ∧ taken ≠ [] ∧ ∀ c ∈ taken, p c = true := by
  have run : ∀ c ∈ s.takeWhile p, p c = true := fun c member => List.mem_takeWhile_imp member
  have text : s = s.takeWhile p ++ s.dropWhile p := List.takeWhile_append_dropWhile.symm
  unfold some at read
  cases begun : s.takeWhile p with
  | nil =>
      rw [begun] at read
      cases read
  | cons c more =>
      rw [begun] at read run text
      cases read
      exact ⟨text, List.cons_ne_nil c more, run⟩

theorem optional_of_some {scan : Scan (List Char)} {taken : List Char}
    (read : scan s = Option.some (taken, rest)) : optional scan s = Option.some (taken, rest) := by
  simp [optional, read]

theorem optional_of_none {scan : Scan (List Char)} (read : scan s = none) :
    optional scan s = Option.some ([], s) := by
  simp [optional, read]

theorem optional_eq_some {scan : Scan (List Char)} {taken : List Char}
    (read : optional scan s = Option.some (taken, rest)) :
    scan s = Option.some (taken, rest) ∨ taken = [] ∧ rest = s := by
  cases result : scan s with
  | none =>
      rw [optional_of_none result] at read
      cases read
      exact .inr ⟨rfl, rfl⟩
  | some r =>
      rw [optional_of_some result] at read
      cases read
      exact .inl rfl

theorem optional_some_append (run : ∀ c ∈ s, p c = true) (stops : Stops p rest) :
    optional (some p) (s ++ rest) = Option.some (s, rest) := by
  cases s with
  | nil => exact optional_of_none (some_eq_none stops)
  | cons c s => exact optional_of_some (some_append (by simp) run stops)

@[simp]
theorem sequence_nil (s : List Char) : sequence [] s = Option.some ([], s) := rfl

theorem sequence_cons_of_some {scan : Scan (List Char)} {scans : List (Scan (List Char))}
    {taken : List Char} (read : scan s = Option.some (taken, rest)) :
    sequence (scan :: scans) s = (sequence scans rest).map fun r => (taken ++ r.1, r.2) := by
  simp [sequence, read]

theorem sequence_cons_of_none {scan : Scan (List Char)} {scans : List (Scan (List Char))}
    (read : scan s = none) : sequence (scan :: scans) s = none := by
  simp [sequence, read]

theorem sequence_cons_eq_some {scan : Scan (List Char)} {scans : List (Scan (List Char))}
    {taken : List Char} (read : sequence (scan :: scans) s = Option.some (taken, rest)) :
    ∃ first mid later, scan s = Option.some (first, mid) ∧
      sequence scans mid = Option.some (later, rest) ∧ taken = first ++ later := by
  cases first : scan s with
  | none =>
      rw [sequence_cons_of_none first] at read
      cases read
  | some r =>
      rw [sequence_cons_of_some first, Option.map_eq_some_iff] at read
      obtain ⟨⟨later, last⟩, others, done⟩ := read
      cases done
      exact ⟨r.1, r.2, later, rfl, others, rfl⟩

theorem closed_of_some {scan : Scan (List Char)} {taken : List Char}
    (read : scan s = Option.some (taken, rest)) (stops : Stops p rest) :
    closed p scan s = Option.some (taken, rest) := by
  cases rest with
  | nil => simp [closed, read]
  | cons c rest => simp [closed, read, stops_cons.mp stops]

theorem closed_of_none {scan : Scan (List Char)} (read : scan s = none) :
    closed p scan s = none := by
  simp [closed, read]

theorem closed_eq_some {scan : Scan (List Char)} {taken : List Char}
    (read : closed p scan s = Option.some (taken, rest)) : scan s = Option.some (taken, rest) := by
  cases result : scan s with
  | none =>
      rw [closed_of_none result] at read
      cases read
  | some r =>
      simp only [closed, result] at read
      split at read
      · cases read
      · exact read

theorem caseless_eq_some_iff {word taken : List Char} :
    caseless word s = Option.some (taken, rest) ↔
      s = taken ++ rest ∧ taken.map asciiLower = word := by
  induction word generalizing s taken with
  | nil =>
      simp only [caseless, Option.some.injEq, Prod.mk.injEq, List.map_eq_nil_iff]
      constructor
      · rintro ⟨rfl, rfl⟩
        exact ⟨rfl, rfl⟩
      · rintro ⟨rfl, rfl⟩
        exact ⟨rfl, rfl⟩
  | cons w word inductionHypothesis =>
      cases s with
      | nil => cases taken <;> simp [caseless]
      | cons d s =>
          by_cases same : asciiLower d = w
          · cases taken with
            | nil => simp [caseless, same]
            | cons e taken =>
                simp only [caseless, same, if_true, Option.map_eq_some_iff, Prod.mk.injEq,
                  List.cons.injEq, Prod.exists, List.cons_append, List.map_cons]
                constructor
                · rintro ⟨taken', rest', read, ⟨rfl, rfl⟩, rfl⟩
                  obtain ⟨text, lowered⟩ := inductionHypothesis.mp read
                  exact ⟨⟨rfl, text⟩, same, lowered⟩
                · rintro ⟨⟨rfl, text⟩, -, lowered⟩
                  exact ⟨taken, rest, inductionHypothesis.mpr ⟨text, lowered⟩, ⟨rfl, rfl⟩, rfl⟩
          · cases taken with
            | nil => simp [caseless, same]
            | cons e taken =>
                simp only [caseless, same, if_false, reduceCtorEq, List.cons_append,
                  List.cons.injEq, List.map_cons, false_iff]
                rintro ⟨⟨rfl, -⟩, lowered, -⟩
                exact same lowered

end Scan

end RecordSearch.Text
