import Mathlib.Data.List.Basic
import RecordSearch.Text.Letter

/-!
# What the case mappings do

The mappings are given by tables of runs, and what holds of the characters of a run is seen from its
ends.  So the tables are checked run by run: nothing becomes a sign of ASCII, and only four letters
have two cases that are both other letters.
-/

namespace RecordSearch.Text

open Property (CaseRun)

/-- Letters that begin as a capital and end as a small letter. -/
def titleLetters : List Char :=
  [Char.ofNat 0x1C5, Char.ofNat 0x1C8, Char.ofNat 0x1CB, Char.ofNat 0x1F2]

namespace Property.CaseRun

variable {run : CaseRun} {code : Nat}

theorem bounds_of_contains (within : run.contains code = true) :
    run.first ≤ code ∧ code ≤ run.last := by
  simp only [contains, Bool.and_eq_true, decide_eq_true_eq] at within
  exact within.1

/-- Whether the codes that stand in both of two runs are those of title letters. -/
def meetsInTitles (run other : CaseRun) : Bool :=
  run.last.blt other.first || other.last.blt run.first ||
    (List.range' run.first (run.last + 1 - run.first)).all fun code =>
      !(run.contains code && other.contains code) || (titleLetters.map Char.toNat).contains code

theorem mem_titleLetters {other : CaseRun} {c : Char} (meets : run.meetsInTitles other = true)
    (within : run.contains c.toNat = true) (within' : other.contains c.toNat = true) :
    c ∈ titleLetters := by
  obtain ⟨first, last⟩ := bounds_of_contains within
  obtain ⟨first', last'⟩ := bounds_of_contains within'
  have near : run.last.blt other.first = false ∧ other.last.blt run.first = false := by
    simp only [Bool.eq_false_iff, ne_eq, Nat.blt_eq]
    omega
  have among : c.toNat ∈ List.range' run.first (run.last + 1 - run.first) := by
    rw [List.mem_range'_1]
    omega
  simp only [meetsInTitles, near.1, near.2, Bool.false_or] at meets
  have title := List.all_eq_true.mp meets _ among
  simp only [within, within', Bool.and_self, Bool.not_true, Bool.false_or,
    List.contains_iff_mem] at title
  obtain ⟨d, member, same⟩ := List.mem_map.mp title
  rwa [← Char.ofNat_toNat c, ← same, Char.ofNat_toNat]

theorem meetsInTitles_of_mem {other : CaseRun} (lower : run ∈ lowerRuns.toList)
    (upper : other ∈ upperRuns.toList) : run.meetsInTitles other = true := by
  have each : lowerRuns.toList.all (fun run =>
      upperRuns.toList.all fun other => run.meetsInTitles other) = true := by decide +kernel
  exact List.all_eq_true.mp (List.all_eq_true.mp each run lower) other upper

end Property.CaseRun

variable {c d : Char} {runs : Array CaseRun} {expansions : Array (Nat × List Nat)}

/-- What a mapping makes of a character: its image in a run, several characters, or itself. -/
theorem mapCase_cases :
    (∃ run ∈ runs.toList, run.contains c.toNat = true ∧
        mapCase runs expansions c = [run.image c.toNat]) ∨
      (∃ expansion ∈ expansions.toList,
        mapCase runs expansions c = expansion.2.map Char.ofNat) ∨
      mapCase runs expansions c = [c] := by
  unfold mapCase
  split
  · next run found =>
      have within : run.contains c.toNat = true := by simpa using Array.find?_some found
      exact .inl ⟨run, Array.mem_toList_iff.mpr (Array.mem_of_find?_eq_some found), within, rfl⟩
  · split
    · next expansion found =>
        have among := Array.mem_toList_iff.mpr (Array.mem_of_find?_eq_some found)
        exact .inr (.inl ⟨expansion, among, rfl⟩)
    · exact .inr (.inr rfl)

/-- A character that becomes one other stands in a run. -/
theorem exists_run_of_mapCase
    (several : expansions.toList.all (fun expansion => expansion.2.length != 1) = true)
    (single : mapCase runs expansions c = [d]) (changed : c ≠ d) :
    ∃ run ∈ runs.toList, run.contains c.toNat = true := by
  rcases @mapCase_cases c runs expansions with ⟨run, among, within, -⟩ | ⟨expansion, among, same⟩ |
    same
  · exact ⟨run, among, within⟩
  · have one := congrArg List.length (same.symm.trans single)
    rw [List.length_map] at one
    have other := List.all_eq_true.mp several expansion among
    rw [one] at other
    cases other
  · exact absurd (List.singleton_inj.mp (same.symm.trans single)) changed

/-- A character of ASCII that is no letter, and not the character with the number zero. -/
def IsSign (c : Char) : Prop := c.toNat ≠ 0 ∧ c.toNat < 128 ∧ isAsciiLetter c = false

instance : DecidablePred IsSign := fun _ => inferInstanceAs (Decidable (_ ∧ _))

section Signs

variable {sign : Char}

theorem IsSign.ne_ofNat (isSign : IsSign sign) {code : Nat}
    (other : 127 < code ∨ isAsciiLetter (Char.ofNat code) = true) : sign ≠ Char.ofNat code := by
  intro same
  rcases other with beyond | letter
  · by_cases valid : code.isValidChar
    · have value := congrArg Char.toNat same
      rw [Char.ofNat, dif_pos valid] at value
      have same : sign.toNat = code := value
      have ascii := isSign.2.1
      omega
    · rw [Char.ofNat, dif_neg valid] at same
      exact isSign.1 (congrArg Char.toNat same)
  · rw [← same, isSign.2.2] at letter
    cases letter

theorem IsSign.eq_of_mem_mapCase (isSign : IsSign sign)
    (clear : runs.toList.all (fun run => run.last.blt 128 ||
      decide (127 < (run.first : Int) + run.shift) ||
        run.first == run.last && isAsciiLetter (run.image run.first)) = true)
    (clear' : expansions.toList.all (fun expansion => expansion.2.all fun code =>
      Nat.blt 127 code || isAsciiLetter (Char.ofNat code)) = true)
    (beyond : 128 ≤ c.toNat) (member : sign ∈ mapCase runs expansions c) : c = sign := by
  rcases @mapCase_cases c runs expansions with ⟨run, among, within, image⟩ |
    ⟨expansion, among, images⟩ | itself
  · obtain ⟨first, last⟩ := CaseRun.bounds_of_contains within
    have apart := List.all_eq_true.mp clear run among
    simp only [Bool.or_eq_true, Nat.blt_eq, decide_eq_true_eq, Bool.and_eq_true, beq_iff_eq]
      at apart
    rw [image, List.mem_singleton] at member
    refine absurd member (isSign.ne_ofNat ?_)
    rcases apart with (early | far) | ⟨single, letter⟩
    · omega
    · exact .inl (by omega)
    · have start : c.toNat = run.first := by omega
      exact .inr (start ▸ letter)
  · rw [images, List.mem_map] at member
    obtain ⟨code, listed, same⟩ := member
    have apart := List.all_eq_true.mp (List.all_eq_true.mp clear' expansion among) code listed
    rw [Bool.or_eq_true, Nat.blt_eq] at apart
    exact absurd same.symm (isSign.ne_ofNat apart)
  · rw [itself, List.mem_singleton] at member
    exact member.symm

theorem IsSign.eq_of_mem_lower (isSign : IsSign sign) (member : sign ∈ lower c) : c = sign := by
  rw [lower] at member
  split at member
  · next ascii =>
      have each : ∀ n < 128, asciiLower (Char.ofNat n) = Char.ofNat n ∨
          isAsciiLetter (asciiLower (Char.ofNat n)) = true := by decide
      have image := each c.toNat ascii
      rw [Char.ofNat_toNat] at image
      rw [List.mem_singleton] at member
      rcases image with same | letter
      · exact (member.trans same).symm
      · rw [← member, isSign.2.2] at letter
        cases letter
  · next beyond =>
      exact isSign.eq_of_mem_mapCase (by decide +kernel) (by decide +kernel)
        (Nat.le_of_not_lt beyond) member

theorem IsSign.eq_of_mem_upper (isSign : IsSign sign) (member : sign ∈ upper c) : c = sign := by
  rw [upper] at member
  split at member
  · next ascii =>
      rw [List.mem_singleton] at member
      split at member
      · next small =>
          have each : ∀ n < 128, isAsciiLower (Char.ofNat n) = true →
              isAsciiLetter (Char.ofNat ((Char.ofNat n).toNat - 32)) = true := by decide
          have letter := each c.toNat ascii
          rw [Char.ofNat_toNat] at letter
          exact absurd member (isSign.ne_ofNat (.inr (letter small)))
      · exact member.symm
  · next beyond =>
      exact isSign.eq_of_mem_mapCase (by decide +kernel) (by decide +kernel)
        (Nat.le_of_not_lt beyond) member

end Signs

theorem lineFeed_not_mem_lower (other : c ≠ '\n') : '\n' ∉ lower c := fun member =>
  other (IsSign.eq_of_mem_lower (by decide) member)

/-- Of a letter of ASCII, one case is the letter itself. -/
theorem case_of_ascii (ascii : c.toNat < 128) : lower c = [c] ∨ upper c = [c] := by
  have each : ∀ n < 128, lower (Char.ofNat n) = [Char.ofNat n] ∨
      upper (Char.ofNat n) = [Char.ofNat n] := by decide
  have entry := each c.toNat ascii
  rwa [Char.ofNat_toNat] at entry

/-- The title letters are those whose two cases are both other letters. -/
theorem mem_titleLetters_iff :
    c ∈ titleLetters ↔ ∃ l u, lower c = [l] ∧ upper c = [u] ∧ l ≠ u ∧ c ≠ l ∧ c ≠ u := by
  constructor
  · intro title
    simp only [titleLetters, List.mem_cons, List.not_mem_nil, or_false] at title
    rcases title with rfl | rfl | rfl | rfl
    · exact ⟨Char.ofNat 0x1C6, Char.ofNat 0x1C4, by decide +kernel⟩
    · exact ⟨Char.ofNat 0x1C9, Char.ofNat 0x1C7, by decide +kernel⟩
    · exact ⟨Char.ofNat 0x1CC, Char.ofNat 0x1CA, by decide +kernel⟩
    · exact ⟨Char.ofNat 0x1F3, Char.ofNat 0x1F1, by decide +kernel⟩
  · rintro ⟨l, u, small, capital, -, notSmall, notCapital⟩
    by_cases ascii : c.toNat < 128
    · rcases case_of_ascii ascii with same | same
      · exact absurd (List.singleton_inj.mp (same.symm.trans small)) notSmall
      · exact absurd (List.singleton_inj.mp (same.symm.trans capital)) notCapital
    · rw [lower, if_neg ascii] at small
      rw [upper, if_neg ascii] at capital
      obtain ⟨run, among, within⟩ := exists_run_of_mapCase (by decide +kernel) small notSmall
      obtain ⟨run', among', within'⟩ := exists_run_of_mapCase (by decide +kernel) capital notCapital
      exact CaseRun.mem_titleLetters (CaseRun.meetsInTitles_of_mem among among') within within'

end RecordSearch.Text
