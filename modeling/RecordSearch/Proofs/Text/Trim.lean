import Mathlib.Data.List.DropRight
import RecordSearch.Proofs.Text.Scan
import RecordSearch.Text.Blank

/-!
# Texts without what stands at their ends

What is left of a text is told by the text: it stands between two runs of a class and neither begins
nor ends with one.
-/

namespace RecordSearch.Text

variable {p : Char → Bool} {s core : List Char}

/-- `core` stands in `s` between two runs of a class, and neither begins nor ends with one. -/
def Trims (p : Char → Bool) (s core : List Char) : Prop :=
  ∃ front back, s = front ++ (core ++ back) ∧ (∀ c ∈ front, p c = true) ∧
    (∀ c ∈ back, p c = true) ∧ Stops p core ∧ Stops p core.reverse

theorem dropTail_append (run : ∀ c ∈ s, p c = true) (stops : Stops p core.reverse) :
    dropTail p (core ++ s) = core := by
  have reversed : ∀ c ∈ s.reverse, p c = true := fun c member =>
    run c (List.mem_reverse.mp member)
  rw [dropTail, List.reverse_append, dropWhile_append_stops reversed stops, List.reverse_reverse]

theorem stops_dropTail (stops : Stops p s) : Stops p (dropTail p s) := by
  intro c head
  obtain ⟨back, whole⟩ : dropTail p s <+: s := List.rdropWhile_prefix p s
  refine stops c ?_
  rw [← whole, List.head?_append, Option.mem_def.mp head, Option.some_or]
  rfl

theorem trims_iff : Trims p s core ↔ trimBy p s = core := by
  constructor
  · rintro ⟨front, back, rfl, ahead, behind, first, last⟩
    rw [trimBy, List.dropWhile_append_of_pos ahead]
    cases core with
    | nil =>
        rw [List.nil_append, List.dropWhile_eq_nil_iff.mpr behind]
        rfl
    | cons c core =>
        have stops : Stops p (c :: core ++ back) := stops_cons.mpr (stops_cons.mp first)
        rw [stops.dropWhile, dropTail_append behind last]
  · rintro rfl
    refine ⟨s.takeWhile p, (s.dropWhile p).rtakeWhile p, ?_,
      fun c member => List.mem_takeWhile_imp member,
      fun c member => List.mem_rtakeWhile_imp member, stops_dropTail (stops_dropWhile s), ?_⟩
    · calc
        s = s.takeWhile p ++ s.dropWhile p := List.takeWhile_append_dropWhile.symm
        _ = _ := congrArg _ (List.rdropWhile_append_rtakeWhile).symm
    · rw [trimBy, dropTail, List.reverse_reverse]
      exact stops_dropWhile _

theorem trimBy_eq_nil_iff : trimBy p s = [] ↔ ∀ c ∈ s, p c = true := by
  rw [← trims_iff]
  constructor
  · rintro ⟨front, back, rfl, ahead, behind, -, -⟩
    exact List.forall_mem_append.mpr ⟨ahead, behind⟩
  · intro each
    exact ⟨s, [], (List.append_nil s).symm, each, List.forall_mem_nil _, stops_nil, stops_nil⟩

end RecordSearch.Text
