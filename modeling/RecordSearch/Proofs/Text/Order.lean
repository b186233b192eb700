import Mathlib.Data.List.Lex
import Mathlib.Data.List.Sort
import RecordSearch.Text.Order

/-!
# Sets of texts

Texts are in the strict order of their encoded forms, so that a set of texts is one ascending list,
whatever list it was made of.
-/

namespace RecordSearch.Text

variable {s t u name : String} {texts others : List String}

section Order

def codes (s : String) : List Nat := (Utf8.bytes s).map UInt8.toNat

theorem Utf8.bytesLt_iff {as bs : List UInt8} :
    Utf8.bytesLt as bs = true ↔ as.map UInt8.toNat < bs.map UInt8.toNat := by
  induction as generalizing bs with
  | nil => cases bs <;> simp [Utf8.bytesLt]
  | cons a as inductionHypothesis =>
      cases bs with
      | nil => simp [Utf8.bytesLt]
      | cons b bs =>
          simp only [Utf8.bytesLt, Bool.or_eq_true, Bool.and_eq_true, decide_eq_true_eq,
            beq_iff_eq, inductionHypothesis, List.map_cons, List.cons_lt_cons_iff,
            UInt8.lt_iff_toNat_lt, UInt8.toNat_inj]

theorem Utf8.lt_iff : Utf8.lt s t = true ↔ codes s < codes t := Utf8.bytesLt_iff

theorem Utf8.bytes_eq (s : String) : Utf8.bytes s = s.toByteArray.data.toList := by
  rw [← String.utf8Encode_toList, List.utf8Encode, List.data_toByteArray]
  rfl

theorem Utf8.bytes_injective : Function.Injective Utf8.bytes := by
  intro s t same
  rw [Utf8.bytes_eq, Utf8.bytes_eq] at same
  exact String.toByteArray_inj.mp (ByteArray.ext (Array.toList_inj.mp same))

theorem codes_injective : Function.Injective codes :=
  (List.map_injective_iff.mpr fun _ _ => UInt8.toNat_inj.mp).comp Utf8.bytes_injective

theorem Utf8.lt_irrefl (s : String) : ¬ Utf8.lt s s = true :=
  fun before => (lt_iff.mp before).false

theorem Utf8.lt_trans (first : Utf8.lt s t = true) (second : Utf8.lt t u = true) :
    Utf8.lt s u = true :=
  lt_iff.mpr ((lt_iff.mp first).trans (lt_iff.mp second))

theorem Utf8.lt_of_not_lt (other : s ≠ t) (behind : ¬ Utf8.lt s t = true) : Utf8.lt t s = true := by
  rw [lt_iff] at behind ⊢
  exact lt_of_le_of_ne (le_of_not_gt behind) fun same => other (codes_injective same).symm

end Order

section Sets

theorem mem_insertText {s name : String} {texts : List String} :
    name ∈ insertText s texts ↔ name = s ∨ name ∈ texts := by
  fun_induction insertText s texts with
  | case1 => exact List.mem_cons
  | case2 t rest before => exact List.mem_cons
  | case3 rest before => simp
  | case4 t rest before other inductionHypothesis =>
      rw [List.mem_cons, inductionHypothesis, List.mem_cons, or_left_comm]

theorem mem_textSet {name : String} {texts : List String} :
    name ∈ textSet texts ↔ name ∈ texts := by
  induction texts with
  | nil => rfl
  | cons s texts inductionHypothesis =>
      rw [textSet, List.foldr_cons, mem_insertText, ← textSet, inductionHypothesis, List.mem_cons]

/-- Each text of a list comes before all that follow it. -/
def Ascending (texts : List String) : Prop := texts.Pairwise fun s t => Utf8.lt s t = true

theorem Ascending.insertText (ascending : Ascending texts) (s : String) :
    Ascending (insertText s texts) := by
  fun_induction Text.insertText s texts with
  | case1 => exact List.pairwise_singleton _ _
  | case2 t rest before =>
      apply List.pairwise_cons.mpr
      refine ⟨fun u member => ?_, ascending⟩
      rcases List.mem_cons.mp member with rfl | later
      · exact before
      · exact Utf8.lt_trans before (List.rel_of_pairwise_cons ascending later)
  | case3 rest before => exact ascending
  | case4 t rest before other inductionHypothesis =>
      obtain ⟨first, later⟩ := List.pairwise_cons.mp ascending
      apply List.pairwise_cons.mpr
      refine ⟨fun u member => ?_, inductionHypothesis later⟩
      rcases mem_insertText.mp member with rfl | within
      · exact Utf8.lt_of_not_lt other before
      · exact first u within

theorem ascending_textSet (texts : List String) : Ascending (textSet texts) := by
  induction texts with
  | nil => exact List.Pairwise.nil
  | cons s texts inductionHypothesis => exact inductionHypothesis.insertText s

theorem Ascending.eq_textSet (ascending : Ascending texts)
    (same : ∀ name, name ∈ texts ↔ name ∈ others) : texts = textSet others := by
  have irrefl : Std.Irrefl fun s t => Utf8.lt s t = true := ⟨Utf8.lt_irrefl⟩
  have antisymm : Std.Antisymm fun s t => Utf8.lt s t = true :=
    ⟨fun s t first second => absurd (Utf8.lt_trans first second) (Utf8.lt_irrefl s)⟩
  refine ascending.eq_of_mem_iff (ascending_textSet others) fun name => ?_
  rw [mem_textSet]
  exact same name

/-- A set of texts is made of its members alone. -/
theorem textSet_eq (same : ∀ name, name ∈ texts ↔ name ∈ others) :
    textSet texts = textSet others := by
  apply (ascending_textSet texts).eq_textSet
  simpa only [mem_textSet] using same

end Sets

end RecordSearch.Text
