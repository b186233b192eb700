import RecordSearch.Pattern.Basic

/-!
# One pass decides what a pattern stands for

A pass over a value keeps the places of a pattern that it may have reached.  `Leads` says what such
places are worth for the rest of the value: from one of them the rest of the pattern stands for it.
A step of the pass keeps that, as long as the places are `Closed` under skipping runs.
-/

namespace RecordSearch.Pattern

open Item (run)

variable {item : Item} {p rest : Pattern} {places : List Bool} {c : Char} {s : List Char}

theorem not_matches_nil_cons : ¬ Matches [] (c :: s) := nofun

theorem matches_run_nil_iff : Matches (run :: rest) [] ↔ Matches rest [] := by
  constructor
  · intro stands
    cases stands with
    | skip later => exact later
  · exact .skip

theorem matches_run_cons_iff :
    Matches (run :: rest) (c :: s) ↔
      Matches rest (c :: s) ∨ run.admits c = true ∧ Matches (run :: rest) s := by
  constructor
  · intro stands
    cases stands with
    | single other => exact absurd rfl other
    | skip later => exact .inl later
    | more admitted later => exact .inr ⟨admitted, later⟩
  · rintro (later | ⟨admitted, later⟩)
    · exact .skip later
    · exact .more admitted later

theorem not_matches_single_nil (single : item ≠ run) : ¬ Matches (item :: rest) [] := by
  intro stands
  cases stands with
  | skip => exact single rfl

theorem matches_single_cons_iff (single : item ≠ run) :
    Matches (item :: rest) (c :: s) ↔ item.admits c = true ∧ Matches rest s := by
  constructor
  · intro stands
    cases stands with
    | single _ admitted later => exact ⟨admitted, later⟩
    | skip => exact absurd rfl single
    | more => exact absurd rfl single
  · rintro ⟨admitted, later⟩
    exact .single single admitted later

inductive Closed : Pattern → List Bool → Prop where
  | done (live : Bool) : Closed [] [live]
  | run {rest : Pattern} {live : Bool} {later : List Bool} :
      (live = true → later.head? = some true) → Closed rest later →
      Closed (.run :: rest) (live :: later)
  | single {item : Item} {rest : Pattern} {later : List Bool} (live : Bool) :
      item ≠ .run → Closed rest later → Closed (item :: rest) (live :: later)

theorem start_single (single : item ≠ run) (reached : Bool) :
    start reached (item :: rest) = reached :: start false rest := by
  cases item <;> first | rfl | exact absurd rfl single

theorem advance_single (single : item ≠ run) (reached live : Bool) (later : List Bool) :
    advance c reached (item :: rest) (live :: later) =
      reached :: advance c (live && item.admits c) rest later := by
  cases item <;> first | rfl | exact absurd rfl single

theorem head?_start (reached : Bool) (p : Pattern) : (start reached p).head? = some reached := by
  cases p with
  | nil => rfl
  | cons item rest => cases item <;> rfl

theorem closed_start (reached : Bool) (p : Pattern) : Closed p (start reached p) := by
  induction p generalizing reached with
  | nil => exact .done reached
  | cons item rest inductionHypothesis =>
      by_cases repeated : item = run
      · subst repeated
        refine .run (fun live => ?_) (inductionHypothesis reached)
        rw [head?_start, live]
      · rw [start_single repeated]
        exact .single reached repeated (inductionHypothesis false)

namespace Closed

theorem head?_advance (closed : Closed p places) :
    (advance c true p places).head? = some true := by
  cases closed with
  | done live => rfl
  | run => rfl
  | single live single => rw [advance_single single]; rfl

theorem advance (closed : Closed p places) (reached : Bool) :
    Closed p (advance c reached p places) := by
  induction closed generalizing reached with
  | done live => exact .done reached
  | run skips later inductionHypothesis =>
      refine .run (fun here => ?_) (inductionHypothesis _)
      rw [here]
      exact later.head?_advance
  | single live single _ inductionHypothesis =>
      rw [advance_single single]
      exact .single reached single (inductionHypothesis _)

end Closed

/-- From some place that is reached, the rest of the pattern stands for a value. -/
def Leads (p : Pattern) (places : List Bool) (s : List Char) : Prop :=
  match places with
  | [] => False
  | live :: later => live = true ∧ Matches p s ∨ Leads p.tail later s

theorem Leads.of_head (live : places.head? = some true) (stands : Matches p s) :
    Leads p places s := by
  obtain ⟨later, rfl⟩ := List.head?_eq_some_iff.mp live
  exact .inl ⟨rfl, stands⟩

theorem leads_start_iff (reached : Bool) :
    Leads p (start reached p) s ↔ reached = true ∧ Matches p s := by
  induction p generalizing reached with
  | nil => simp [start, Leads]
  | cons item rest inductionHypothesis =>
      by_cases repeated : item = run
      · subst repeated
        simp only [start, Leads, List.tail_cons, inductionHypothesis, ← and_or_left]
        exact and_congr_right fun _ => or_iff_left_of_imp .skip
      · rw [start_single repeated]
        simp [Leads, inductionHypothesis]

/-- What is reached after a character leads on as what was reached before it did. -/
theorem Closed.leads_advance_iff (closed : Closed p places) (reached : Bool) :
    Leads p (Pattern.advance c reached p places) s ↔
      reached = true ∧ Matches p s ∨ Leads p places (c :: s) := by
  induction closed generalizing reached with
  | done live => simp [Pattern.advance, Leads, not_matches_nil_cons]
  | @run rest live later skips _ inductionHypothesis =>
      simp only [Pattern.advance, Leads, List.tail_cons, inductionHypothesis,
        matches_run_cons_iff, Bool.or_eq_true, Bool.and_eq_true]
      constructor
      · rintro (⟨here | ⟨open', admitted⟩, stands⟩ | ⟨here | ⟨open', admitted⟩, stands⟩ | leads)
        · exact .inl ⟨here, stands⟩
        · exact .inr (.inl ⟨open', .inr ⟨admitted, stands⟩⟩)
        · exact .inl ⟨here, .skip stands⟩
        · exact .inr (.inl ⟨open', .inr ⟨admitted, .skip stands⟩⟩)
        · exact .inr (.inr leads)
      · rintro (⟨here, stands⟩ | ⟨open', stands | ⟨admitted, stands⟩⟩ | leads)
        · exact .inl ⟨.inl here, stands⟩
        · exact .inr (.inr (.of_head (skips open') stands))
        · exact .inl ⟨.inr ⟨open', admitted⟩, stands⟩
        · exact .inr (.inr leads)
  | single live single _ inductionHypothesis =>
      rw [advance_single single]
      simp only [Leads, List.tail_cons, inductionHypothesis, matches_single_cons_iff single,
        Bool.and_eq_true, and_assoc]

theorem Closed.leads_nil_iff (closed : Closed p places) :
    Leads p places [] ↔ places.getLast?.getD false = true := by
  induction closed with
  | done live => simp [Leads, Matches.nil]
  | @run rest live later skips closed inductionHypothesis =>
      have last : (live :: later).getLast? = later.getLast? := by
        cases closed <;> rfl
      rw [last, ← inductionHypothesis]
      simp only [Leads, List.tail_cons, matches_run_nil_iff]
      exact or_iff_right_of_imp fun ⟨open', stands⟩ => .of_head (skips open') stands
  | @single item rest later live single closed inductionHypothesis =>
      have last : (live :: later).getLast? = later.getLast? := by
        cases closed <;> rfl
      rw [last, ← inductionHypothesis]
      simp [Leads, not_matches_single_nil single]

theorem Closed.leads_iff (closed : Closed p places) :
    Leads p places s ↔
      ((s.foldl (fun live c => Pattern.advance c false p live) places).getLast?).getD false =
        true := by
  induction s generalizing places with
  | nil => exact closed.leads_nil_iff
  | cons c s inductionHypothesis =>
      rw [List.foldl_cons, ← inductionHypothesis (closed.advance false),
        closed.leads_advance_iff]
      simp

/-- A pattern accepts exactly the values that it stands for. -/
theorem accepts_iff : p.accepts s = true ↔ Matches p s := by
  rw [accepts, ← (closed_start true p).leads_iff, leads_start_iff]
  simp

theorem matches_anything_iff : Matches anything s ↔ '\n' ∉ s := by
  induction s with
  | nil => simp [anything, matches_run_nil_iff, Matches.nil]
  | cons c s inductionHypothesis =>
      rw [anything] at *
      rw [matches_run_cons_iff, inductionHypothesis]
      simp only [not_matches_nil_cons, false_or, Item.admits, bne_iff_ne, List.mem_cons, not_or]
      exact and_congr_left fun _ => ne_comm

theorem matches_ofWord_iff {word : String} : Matches (ofWord word) s ↔ s = word.toList := by
  rw [ofWord]
  induction word.toList generalizing s with
  | nil =>
      cases s with
      | nil => simp [Matches.nil]
      | cons c s => simp [not_matches_nil_cons]
  | cons d others inductionHypothesis =>
      have single : Item.char d ≠ run := nofun
      cases s with
      | nil => simp [not_matches_single_nil single]
      | cons c s =>
          rw [List.map_cons, matches_single_cons_iff single, inductionHypothesis]
          simp [Item.admits]

end RecordSearch.Pattern
