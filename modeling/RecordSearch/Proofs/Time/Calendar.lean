import Mathlib.Algebra.BigOperators.Group.List.Basic
import Mathlib.Algebra.GroupWithZero.Nat
import RecordSearch.Time.Civil

/-!
# Day numbers and dates

`Date.ofDayNumber` is a right inverse of `Date.dayNumber`, and its dates are days of the calendar.
A day number splits into whole cycles of years and a day of the year, and the day of the year into
whole months and a day of the month.
-/

namespace RecordSearch.Time.Date

/-- The month that a day of the year lies in, and how far into it the day lies. -/
theorem monthDay_split {lengths : List Nat} {days : Nat} (month : Nat)
    (inside : days < lengths.sum) :
    ∃ k rest, monthDay lengths month days = (month + k, rest + 1) ∧ k < lengths.length ∧
      rest < lengths.getD k 0 ∧ (lengths.take k).sum + rest = days := by
  induction lengths generalizing month days with
  | nil => simp at inside
  | cons length lengths inductionHypothesis =>
      by_cases first : days < length
      · exact ⟨0, days, by simp [monthDay, first], by simp, by simpa using first, by simp⟩
      · have later : days - length < lengths.sum := by
          rw [List.sum_cons] at inside
          omega
        obtain ⟨k, rest, found, bound, short, total⟩ := inductionHypothesis (month + 1) later
        refine ⟨k + 1, rest, ?_, by simpa using bound, by simpa using short, ?_⟩
        · rw [monthDay, if_neg first, found, Nat.add_assoc, Nat.add_comm 1 k]
        · rw [List.take_succ_cons, List.sum_cons]
          omega

theorem sum_monthLengths (leap : Bool) :
    (monthLengths leap).sum = if leap then 366 else 365 := by
  cases leap <;> rfl

@[simp]
theorem length_monthLengths (leap : Bool) : (monthLengths leap).length = 12 := rfl

theorem isLeapYear_iff {year : Int} :
    isLeapYear year = true ↔ year % 4 = 0 ∧ (year % 100 ≠ 0 ∨ year % 400 = 0) := by
  simp [isLeapYear]

structure YearDay where
  year : Int
  day : Nat

def yearDay (number : Int) : YearDay :=
  let days := number + epoch
  let inEra := (days % 146097).toNat
  let century := min (inEra / 36524) 3
  let inCentury := inEra - century * 36524
  let quad := inCentury / 1461
  let inQuad := inCentury % 1461
  let single := min (inQuad / 365) 3
  ⟨days / 146097 * 400 + (century * 100 + quad * 4 + single + 1 : Nat), inQuad - single * 365⟩

theorem ofDayNumber_eq (number : Int) :
    ofDayNumber number =
      ⟨(yearDay number).year,
        (monthDay (monthLengths (isLeapYear (yearDay number).year)) 1 (yearDay number).day).1,
        (monthDay (monthLengths (isLeapYear (yearDay number).year)) 1 (yearDay number).day).2⟩ :=
  rfl

/-- A day number as whole cycles of years and the days that are left. The last day of a cycle may
fall behind its last whole year, which is then a leap year. -/
theorem yearDay_cycles (number : Int) :
    ∃ (era : Int) (century quad single day : Nat),
      yearDay number = ⟨era * 400 + (century * 100 + quad * 4 + single + 1 : Nat), day⟩ ∧
      146097 * era + (36524 * century + 1461 * quad + 365 * single + day : Nat) =
        number + epoch ∧
      century ≤ 3 ∧ quad ≤ 24 ∧ single ≤ 3 ∧ day ≤ 365 ∧
      (day = 365 → single = 3 ∧ (quad = 24 → century = 3)) := by
  refine ⟨_, _, _, _, _, rfl, ?_⟩
  generalize dayOfEra : ((number + epoch) % 146097).toNat = inEra
  generalize century_eq : min (inEra / 36524) 3 = century
  generalize rest_eq : inEra - century * 36524 = inCentury
  generalize quad_eq : inCentury / 1461 = quad
  generalize single_eq : min (inCentury % 1461 / 365) 3 = single
  have eraBound : inEra < 146097 := by omega
  have centuryBound : inCentury ≤ 36524 ∧ (century < 3 → inCentury < 36524) := by omega
  have quadBound : quad ≤ 24 := by omega
  have split : inCentury = 1461 * quad + inCentury % 1461 := by omega
  refine ⟨by omega, by omega, quadBound, by omega, by omega, fun last => ⟨by omega, by omega⟩⟩

theorem daysBeforeYear_yearDay (number : Int) :
    daysBeforeYear (yearDay number).year + (yearDay number).day = number + epoch := by
  obtain ⟨era, century, quad, single, day, split, total, centuryBound, quadBound, singleBound, -⟩ :=
    yearDay_cycles number
  rw [split]
  generalize past_eq : (era * 400 + (century * 100 + quad * 4 + single : Nat) : Int) = past
  have fourths : past / 4 = era * 100 + (century * 25 + quad : Nat) := by omega
  have centuries : past / 100 = era * 4 + century := by omega
  have eras : past / 400 = era := by omega
  have year_eq : (era * 400 + (century * 100 + quad * 4 + single + 1 : Nat) : Int) - 1 = past := by
    omega
  simp only [daysBeforeYear, year_eq, fourths, centuries, eras]
  omega

theorem day_yearDay_lt (number : Int) :
    (yearDay number).day < (monthLengths (isLeapYear (yearDay number).year)).sum := by
  obtain ⟨era, century, quad, single, day, split, -, centuryBound, quadBound, singleBound,
    dayBound, lastDay⟩ := yearDay_cycles number
  rw [split, sum_monthLengths]
  by_cases last : day = 365
  · obtain ⟨lastYear', lastCentury⟩ := lastDay last
    have leap : isLeapYear (era * 400 + (century * 100 + quad * 4 + single + 1 : Nat)) = true := by
      rw [isLeapYear_iff]
      omega
    simp only [leap, if_true]
    omega
  · have : day < 365 := by omega
    split_ifs <;> simp only <;> omega

/-- The date of a day number is a day of its year. -/
theorem ofDayNumber_split (number : Int) :
    ∃ k rest, ofDayNumber number = ⟨(yearDay number).year, k + 1, rest + 1⟩ ∧ k < 12 ∧
      rest < (monthLengths (isLeapYear (yearDay number).year)).getD k 0 ∧
      ((monthLengths (isLeapYear (yearDay number).year)).take k).sum + rest =
        (yearDay number).day := by
  obtain ⟨k, rest, found, bound, short, total⟩ := monthDay_split 1 (day_yearDay_lt number)
  refine ⟨k, rest, ?_, by simpa using bound, short, total⟩
  rw [ofDayNumber_eq, found, Nat.add_comm 1 k]

@[simp]
theorem dayNumber_ofDayNumber (number : Int) : (ofDayNumber number).dayNumber = number := by
  obtain ⟨k, rest, date, -, -, total⟩ := ofDayNumber_split number
  have whole := daysBeforeYear_yearDay number
  have day : dayOfYear ⟨(yearDay number).year, k + 1, rest + 1⟩ = (yearDay number).day := by
    rw [← total]
    rfl
  rw [date, dayNumber, day]
  show daysBeforeYear (yearDay number).year + _ - epoch = number
  omega

theorem ofDayNumber_bounds (number : Int) :
    1 ≤ (ofDayNumber number).month ∧ (ofDayNumber number).month ≤ 12 ∧
      1 ≤ (ofDayNumber number).day ∧ (ofDayNumber number).day ≤
        (monthLengths (isLeapYear (ofDayNumber number).year)).getD
          ((ofDayNumber number).month - 1) 0 := by
  obtain ⟨k, rest, date, bound, short, -⟩ := ofDayNumber_split number
  rw [date]
  exact ⟨Nat.succ_pos k, bound, Nat.succ_pos rest, by simpa [Nat.succ_le_iff] using short⟩

theorem isValid_ofDayNumber {number : Int} (first : firstYear ≤ (ofDayNumber number).year)
    (last : (ofDayNumber number).year ≤ lastYear) : (ofDayNumber number).isValid = true := by
  obtain ⟨month, month', day, day'⟩ := ofDayNumber_bounds number
  simp only [isValid, Bool.and_eq_true, decide_eq_true_eq]
  exact ⟨⟨⟨⟨⟨first, last⟩, month⟩, month'⟩, day⟩, day'⟩

theorem getD_monthLengths_le (leap : Bool) (k : Nat) : (monthLengths leap).getD k 0 ≤ 31 := by
  by_cases inside : k < 12
  · have listed : ∀ leap, ∀ k < 12, (monthLengths leap).getD k 0 ≤ 31 := by decide
    exact listed leap k inside
  · rw [List.getD_eq_getElem?_getD, List.getElem?_eq_none (by simpa using inside)]
    exact Nat.zero_le 31

theorem day_ofDayNumber_le (number : Int) : (ofDayNumber number).day ≤ 31 :=
  Nat.le_trans (ofDayNumber_bounds number).2.2.2 (getD_monthLengths_le _ _)

theorem year_ofDayNumber_bounds {number : Int} (first : -1000000 ≤ number)
    (last : number ≤ 4000000) :
    firstYear ≤ (ofDayNumber number).year ∧ (ofDayNumber number).year ≤ lastYear := by
  have whole := daysBeforeYear_yearDay number
  have short : (yearDay number).day < 366 := by
    have inYear := day_yearDay_lt number
    rw [sum_monthLengths] at inYear
    split at inYear <;> omega
  rw [ofDayNumber_eq]
  simp only [daysBeforeYear, epoch, firstYear, lastYear] at whole ⊢
  omega

theorem dayNumber_bounds {d : Date} (valid : d.isValid = true) (first : 0 ≤ d.year)
    (last : d.year ≤ 9999) : -800000 ≤ d.dayNumber ∧ d.dayNumber ≤ 3000000 := by
  simp only [isValid, Bool.and_eq_true, decide_eq_true_eq] at valid
  obtain ⟨⟨⟨-, month⟩, -⟩, day⟩ := valid
  have inMonth := Nat.le_trans day (getD_monthLengths_le _ _)
  have listed : ∀ leap, ∀ k < 12, ((monthLengths leap).take k).foldr (· + ·) 0 ≤ 366 := by decide
  have months := listed (isLeapYear d.year) (d.month - 1) (by omega)
  simp only [dayNumber, daysBeforeYear, dayOfYear, epoch]
  omega

end RecordSearch.Time.Date
