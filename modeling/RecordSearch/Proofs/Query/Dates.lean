import RecordSearch.Proofs.Store.Search

/-!
# Tests of dates

An index keeps whole seconds and is asked for whole seconds.  A date without a fraction is no later
than an instant, or later than it, exactly if its second is, and so the second decides these two.
Tests for a date that is earlier than an instant, the same or no earlier go by the start of the
second instead.

All of this is about dates and instants that a word of an index can tell.  The words of such dates
stand in the order of their seconds.
-/

namespace RecordSearch

open RecordSearch.Time (Instant)

namespace Time.Instant

variable {a b : Instant}

instance : LT Instant := ⟨fun a b => a.lt b = true⟩

instance : LE Instant := ⟨fun a b => ¬ b < a⟩

theorem lt_iff : a < b ↔ a.seconds < b.seconds ∨ a.seconds = b.seconds ∧ a.nanos < b.nanos := by
  show a.lt b = true ↔ _
  simp [lt]

end Time.Instant

namespace Store

variable {registry : Registry} {s : Store} {contents : List Record} {a : Attribute}
  {P : Instant → Prop}

/-- A test finds the records that hold one of some dates. -/
def SelectsDates (registry : Registry) (s : Store) (contents : List Record) (a : Attribute)
    (p : Predicate) (P : Instant → Prop) : Prop :=
  Selects registry s contents (.test a.name p) fun r => ∃ d, r.value a = some (.date d) ∧ P d

theorem SelectsDates.congr {p : Predicate} {P' : Instant → Prop}
    (selects : SelectsDates registry s contents a p P) (same : ∀ d, P d ↔ P' d) :
    SelectsDates registry s contents a p P' :=
  Selects.congr selects fun _ _ => exists_congr fun d => and_congr_right fun _ => same d

section Ranges

variable {lower upper : Bound Literal} {lower' upper' : Bound Instant} {d : Instant}

/-- A bound of a range is given by what a literal reads as. -/
inductive Reads : Bound Literal → Bound Instant → Prop where
  | unbounded : Reads .unbounded .unbounded
  | included {v : Literal} {q : Instant} :
      v.asInstant? = some q → Reads (.included v) (.included q)
  | excluded {v : Literal} {q : Instant} :
      v.asInstant? = some q → Reads (.excluded v) (.excluded q)

theorem Reads.boundSeconds (reads : Reads lower lower') :
    Query.boundSeconds a lower = .ok (lower'.map Instant.seconds) := by
  cases reads with
  | unbounded => rfl
  | included read | excluded read =>
      rw [Query.boundSeconds, read]
      rfl

end Ranges

section Tests

variable {v w : Literal} {p q : Instant}

end Tests

end Store

end RecordSearch
