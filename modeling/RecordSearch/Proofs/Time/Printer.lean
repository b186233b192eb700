import RecordSearch.Proofs.Time.Stamp
import RecordSearch.Time.Printer

/-!
# Dates that are read as they were written

A moment without a fraction, in a year of four digits, is written as a stamp with seconds and a `Z`,
which is read back.
-/

namespace RecordSearch.Time

open RecordSearch.Text

section Digits

variable {width n : Nat} {rest : List Char}

theorem isAsciiDigit_of_isDigit {c : Char} (digit : c.isDigit = true) : isAsciiDigit c = true := by
  simp only [Char.isDigit, Bool.and_eq_true, decide_eq_true_eq] at digit
  simp only [isAsciiDigit, Bool.and_eq_true, decide_eq_true_eq]
  exact digit

theorem length_padded (positive : 0 < width) (fits : n < 10 ^ width) :
    (padded width n).length = width := by
  have short := (Nat.length_toDigits_le_iff (by decide) positive).mpr fits
  simp only [padded, List.length_append, List.length_replicate]
  omega

theorem isAsciiDigit_of_mem_padded {c : Char} (member : c ∈ padded width n) :
    isAsciiDigit c = true := by
  rcases List.mem_append.mp member with filler | digit
  · rw [List.eq_of_mem_replicate filler]
    rfl
  · exact isAsciiDigit_of_isDigit (Nat.isDigit_of_mem_toDigits (by decide) (by decide) digit)

@[simp]
theorem digitsValue_padded : digitsValue (padded width n) = n := by
  rw [digitsValue_eq_ofDigitChars, padded, Nat.ofDigitChars_append,
    Nat.ofDigitChars_replicate_zero, Nat.mul_zero, Nat.ofDigitChars_ten_toDigits]

theorem exactly_padded (positive : 0 < width) (fits : n < 10 ^ width) (rest : List Char) :
    Scan.exactly isAsciiDigit width (padded width n ++ rest) = some (padded width n, rest) := by
  have taken := Scan.exactly_append (p := isAsciiDigit) (s := padded width n)
    (fun c => isAsciiDigit_of_mem_padded) rest
  rwa [length_padded positive fits] at taken

def Digits.padded (positive : 0 < width) (fits : n < 10 ^ width) : Digits width where
  text := Time.padded width n
  length := length_padded positive fits
  run _ := isAsciiDigit_of_mem_padded

@[simp]
theorem Digits.value_padded (positive : 0 < width) (fits : n < 10 ^ width) :
    (Digits.padded positive fits).value = n := digitsValue_padded

end Digits

namespace Instant

/-- Nothing of a moment is lost in its text, and the year takes four digits. -/
structure IsPlain (at' : Instant) : Prop where
  nanos : at'.nanos = 0
  first : 0 ≤ at'.date.year
  last : at'.date.year ≤ 9999

variable {at' : Instant}

def fields (at' : Instant) : LocalTime where
  year := at'.date.year
  month := at'.date.month
  day := at'.date.day
  hour := at'.secondOfDay / 3600
  minute := at'.secondOfDay / 60 % 60
  second := at'.secondOfDay % 60

theorem render_of_isPlain (plain : at'.IsPlain) :
    at'.render = padded 4 at'.fields.year.toNat ++ '-' :: (padded 2 at'.fields.month ++ '-' ::
      (padded 2 at'.fields.day ++ 'T' :: (padded 2 at'.fields.hour ++ ':' ::
        (padded 2 at'.fields.minute ++ ':' :: (padded 2 at'.fields.second ++ ['Z']))))) := by
  simp [render, Date.render, renderYear, renderClock, fields, plain.nanos, plain.first, plain.last]

theorem secondOfDay_lt (at' : Instant) : at'.secondOfDay < 86400 := by
  simp only [secondOfDay]
  omega

theorem fields_bounds (plain : at'.IsPlain) :
    at'.fields.year.toNat < 10000 ∧ at'.fields.month < 100 ∧ at'.fields.day < 100 ∧
      at'.fields.hour < 24 ∧ at'.fields.minute < 60 ∧ at'.fields.second < 60 := by
  have clock := at'.secondOfDay_lt
  have month := (Date.ofDayNumber_bounds (at'.seconds / 86400)).2.1
  have day := Date.day_ofDayNumber_le (at'.seconds / 86400)
  have year := plain.last
  simp only [date] at year
  simp only [fields, date]
  omega

theorem IsPlain.exists_stamp (plain : at'.IsPlain) :
    ∃ s : Stamp, s.render = at'.render ∧ s.Valid ∧ ¬ s.Unread ∧ s.instant = at' := by
  obtain ⟨year, month, day, hour, minute, second⟩ := fields_bounds plain
  let s : Stamp := {
    year := .padded (by decide) year
    month := .padded (by decide) month
    day := .padded (by decide) day
    clock := some {
      hour := .padded (by decide) (Nat.lt_trans hour (by decide))
      minute := .padded (by decide) (Nat.lt_trans minute (by decide))
      seconds := some ⟨.padded (by decide) (Nat.lt_trans second (by decide)), [], nofun⟩
      zone := .zulu } }
  have date : s.date = at'.date := by
    have sign : (at'.fields.year.toNat : Int) = at'.fields.year := Int.toNat_of_nonneg plain.first
    simp only [Stamp.date, s, Digits.value_padded, sign]
    rfl
  refine ⟨s, ?render, ⟨?date, ?clock⟩, ?unread, ?instant⟩
  case render =>
    rw [render_of_isPlain plain]
    simp [s, Stamp.render, Clock.render, Seconds.render, Zone.render, Digits.padded]
  case date =>
    rw [date]
    exact Date.isValid_ofDayNumber (Int.le_trans (by decide) plain.first)
      (Int.le_trans plain.last (by decide))
  case clock =>
    intro c told
    cases told
    refine ⟨?_, ?_, fun n told => ?_, trivial⟩
    · rw [Digits.value_padded]
      omega
    · rw [Digits.value_padded]
      omega
    · cases told
      rw [Digits.value_padded]
      omega
  case unread =>
    rintro ⟨c, told, noSeconds, -⟩
    cases told
    cases noSeconds
  case instant =>
    have seconds : s.instant.seconds = at'.seconds := by
      have days : at'.date.dayNumber = at'.seconds / 86400 := Date.dayNumber_ofDayNumber _
      have clock : s.secondOfDay = at'.secondOfDay := by
        simp only [Stamp.secondOfDay, s, Option.elim_some, Digits.value_padded, fields]
        omega
      have distance : s.distance = 0 := rfl
      simp only [Stamp.instant, date, days, clock, distance, secondOfDay]
      omega
    obtain ⟨seconds', nanos, bound⟩ := at'
    obtain rfl : nanos = 0 := plain.nanos
    exact congrArg ofSeconds seconds

/-- A plain moment is read back from its text. -/
theorem instant?_text (plain : at'.IsPlain) : Time.instant? at'.text = some at' := by
  obtain ⟨s, same, valid, read, named⟩ := plain.exists_stamp
  rw [text, ← same, Stamp.instant?_of_valid valid read, named]

end Instant

end RecordSearch.Time
