import Mathlib.Data.List.Forall2

/-!
# Steps that can fail

If a computation succeeds, each of its steps has; if it fails, one of them has failed before.
-/

namespace RecordSearch.Attempt

variable {α β ε : Type} {e : ε} {x : Except ε α} {l : List α} {l' : List β}

section Steps

variable {y : β}

theorem map_eq_ok {f : α → β} (mapped : f <$> x = .ok y) : ∃ z, x = .ok z ∧ f z = y := by
  cases x with
  | error e => cases mapped
  | ok z => exact ⟨z, rfl, Except.ok.inj mapped⟩

theorem bind_eq_ok {f : α → Except ε β} (bound : (x >>= f) = .ok y) :
    ∃ z, x = .ok z ∧ f z = .ok y := by
  cases x with
  | error e => cases bound
  | ok z => exact ⟨z, rfl, bound⟩

theorem map_eq_error {f : α → β} (failed : f <$> x = .error e) : x = .error e := by
  cases x with
  | error e' => exact congrArg _ (Except.error.inj failed)
  | ok z => cases failed

theorem bind_eq_error {f : α → Except ε β} (failed : (x >>= f) = .error e) :
    x = .error e ∨ ∃ z, x = .ok z ∧ f z = .error e := by
  cases x with
  | error e' => exact .inl (congrArg _ (Except.error.inj failed))
  | ok z => exact .inr ⟨z, rfl, failed⟩

/-- A computation that gives a result. -/
def Succeeds (x : Except ε α) : Prop := ∃ a, x = .ok a

@[simp] theorem succeeds_ok (a : α) : Succeeds (.ok a : Except ε α) := ⟨a, rfl⟩

@[simp] theorem not_succeeds_error (e : ε) : ¬ Succeeds (.error e : Except ε α) := nofun

theorem succeeds_map_iff {f : α → β} : Succeeds (f <$> x) ↔ Succeeds x := by
  constructor
  · rintro ⟨y, mapped⟩
    obtain ⟨z, made, -⟩ := map_eq_ok mapped
    exact ⟨z, made⟩
  · rintro ⟨z, rfl⟩
    exact ⟨f z, rfl⟩

theorem succeeds_or_error (x : Except ε α) : Succeeds x ∨ ∃ e, x = .error e := by
  cases x with
  | error e => exact .inr ⟨e, rfl⟩
  | ok a => exact .inl ⟨a, rfl⟩

end Steps

section Lists

theorem forall₂_of_mapM {f : α → Except ε β} (mapped : l.mapM f = .ok l') :
    List.Forall₂ (fun x y => f x = .ok y) l l' := by
  induction l generalizing l' with
  | nil =>
      cases mapped
      exact .nil
  | cons x l inductionHypothesis =>
      rw [List.mapM_cons] at mapped
      obtain ⟨y, first, others⟩ := bind_eq_ok mapped
      obtain ⟨ys, later, done⟩ := bind_eq_ok others
      cases done
      exact .cons first (inductionHypothesis later)

theorem mem_of_mapM {f : α → Except ε β} (mapped : l.mapM f = .ok l') {y : β} :
    y ∈ l' ↔ ∃ x ∈ l, f x = .ok y := by
  have each := forall₂_of_mapM mapped
  clear mapped
  induction each with
  | nil => simp
  | cons first _ inductionHypothesis =>
      constructor
      · intro member
        rcases List.mem_cons.mp member with rfl | later
        · exact ⟨_, List.mem_cons_self, first⟩
        · obtain ⟨x, among, made⟩ := inductionHypothesis.mp later
          exact ⟨x, List.mem_cons_of_mem _ among, made⟩
      · rintro ⟨x, among, made⟩
        rcases List.mem_cons.mp among with rfl | later
        · rw [first] at made
          cases made
          exact List.mem_cons_self
        · exact List.mem_cons_of_mem _ (inductionHypothesis.mpr ⟨x, later, made⟩)

theorem exists_ok_of_mapM {f : α → Except ε β} (mapped : l.mapM f = .ok l') :
    ∀ x ∈ l, ∃ y, f x = .ok y := by
  have each := forall₂_of_mapM mapped
  clear mapped
  induction each with
  | nil => exact List.forall_mem_nil _
  | cons first _ inductionHypothesis =>
      exact List.forall_mem_cons.mpr ⟨⟨_, first⟩, inductionHypothesis⟩

theorem mapM_eq_error {f : α → Except ε β} (failed : l.mapM f = .error e) :
    ∃ x ∈ l, f x = .error e := by
  induction l with
  | nil => cases failed
  | cons x l inductionHypothesis =>
      rw [List.mapM_cons] at failed
      rcases bind_eq_error failed with first | ⟨y, -, later⟩
      · exact ⟨x, List.mem_cons_self, first⟩
      · rcases bind_eq_error later with others | ⟨ys, -, done⟩
        · obtain ⟨x', member, failed'⟩ := inductionHypothesis others
          exact ⟨x', List.mem_cons_of_mem x member, failed'⟩
        · cases done

theorem succeeds_mapM_iff {f : α → Except ε β} :
    Succeeds (l.mapM f) ↔ ∀ x ∈ l, Succeeds (f x) := by
  constructor
  · rintro ⟨l', mapped⟩
    exact exists_ok_of_mapM mapped
  · intro each
    rcases succeeds_or_error (l.mapM f) with done | ⟨e, failed⟩
    · exact done
    · obtain ⟨x, member, failed'⟩ := mapM_eq_error failed
      obtain ⟨y, made⟩ := each x member
      rw [made] at failed'
      cases failed'

theorem mapM_map_eq_ok {f : β → Except ε α} {g : α → β} (back : ∀ x ∈ l, f (g x) = .ok x) :
    (l.map g).mapM f = .ok l := by
  induction l with
  | nil => rfl
  | cons x l inductionHypothesis =>
      have later := inductionHypothesis fun y member => back y (List.mem_cons_of_mem _ member)
      rw [List.map_cons, List.mapM_cons, back x List.mem_cons_self, later]
      rfl

end Lists

end RecordSearch.Attempt
