import Mathlib.Data.List.Induction
import RecordSearch.Proofs.Text.Scan
import RecordSearch.Proofs.Time.Calendar
import RecordSearch.Time.Reader

/-!
# Dates and times as they are written

A stamp is a date with digits in fixed places, and perhaps with a time of day, a fraction of a
second and an offset.  Six formats are tried on it, and the parts that it has tell which one reads
it.  None reads a time without seconds in front of a `Z`.
-/

namespace RecordSearch.Time

open RecordSearch.Text

structure Digits (width : Nat) where
  text : List Char
  length : text.length = width
  run : ∀ c ∈ text, isAsciiDigit c = true

def Digits.ofText {width : Nat} (text : String) (length : text.toList.length = width)
    (run : text.toList.all isAsciiDigit = true) : Digits width :=
  ⟨text.toList, length, List.all_eq_true.mp run⟩

inductive Zone where
  | absent
  | zulu
  | offset (ahead : Bool) (hours : Digits 2) (colon : Bool) (minutes : Digits 2)

structure Seconds where
  whole : Digits 2
  fraction : List Char
  run : ∀ c ∈ fraction, isAsciiDigit c = true

structure Clock where
  hour : Digits 2
  minute : Digits 2
  seconds : Option Seconds
  zone : Zone

structure Stamp where
  year : Digits 4
  month : Digits 2
  day : Digits 2
  clock : Option Clock

section Text

def Zone.render : Zone → List Char
  | absent => []
  | zulu => ['Z']
  | offset ahead hours colon minutes =>
    (if ahead then '+' else '-') ::
      (hours.text ++ ((if colon then [':'] else []) ++ minutes.text))

def Seconds.render (s : Seconds) : List Char :=
  ':' :: (s.whole.text ++ if s.fraction = [] then [] else '.' :: s.fraction)

def Clock.render (c : Clock) : List Char :=
  'T' :: (c.hour.text ++ ':' ::
    (c.minute.text ++ (c.seconds.elim [] Seconds.render ++ c.zone.render)))

def Stamp.render (s : Stamp) : List Char :=
  s.year.text ++ '-' :: (s.month.text ++ '-' :: (s.day.text ++ s.clock.elim [] Clock.render))

end Text

section Meaning

def Digits.value {width : Nat} (n : Digits width) : Nat := digitsValue n.text

def Zone.distance : Zone → Int
  | absent | zulu => 0
  | offset ahead hours _ minutes =>
    (if ahead then 1 else -1) * (hours.value * 3600 + minutes.value * 60 : Nat)

def Seconds.nanos (s : Seconds) : Nat := digitsValue ((s.fraction ++ List.replicate 9 '0').take 9)

namespace Stamp

variable (s : Stamp)

def date : Date := ⟨s.year.value, s.month.value, s.day.value⟩

/-- Seconds since midnight.  A time that is not told is midnight. -/
def secondOfDay : Nat :=
  s.clock.elim 0 fun c =>
    c.hour.value * 3600 + c.minute.value * 60 + c.seconds.elim 0 fun s => s.whole.value

def nanos : Nat := (s.clock.bind Clock.seconds).elim 0 Seconds.nanos

def distance : Int := s.clock.elim 0 fun c => c.zone.distance

def fields : LocalTime where
  year := s.year.value
  month := s.month.value
  day := s.day.value
  hour := s.clock.elim 0 fun c => c.hour.value
  minute := s.clock.elim 0 fun c => c.minute.value
  second := (s.clock.bind Clock.seconds).elim 0 fun n => n.whole.value
  nanos := s.nanos
  offset := s.distance

end Stamp

def Zone.Valid : Zone → Prop
  | absent | zulu => True
  | offset _ hours _ minutes => hours.value ≤ 23 ∧ minutes.value ≤ 59

structure Clock.Valid (c : Clock) : Prop where
  hour : c.hour.value ≤ 23
  minute : c.minute.value ≤ 59
  second : ∀ n ∈ c.seconds, n.whole.value ≤ 59
  zone : c.zone.Valid

structure Stamp.Valid (s : Stamp) : Prop where
  date : s.date.isValid = true
  clock : ∀ c ∈ s.clock, c.Valid

end Meaning

section Digits

theorem digitsValue_eq_ofDigitChars (digits : List Char) :
    digitsValue digits = Nat.ofDigitChars 10 digits 0 := by
  simp only [digitsValue, Nat.ofDigitChars, Nat.mul_comm]

/-- A number takes the digits of a run, and no more of them than it may. -/
theorem number_run {least : Nat} {digits : List Char}
    (run : ∀ c ∈ digits, isAsciiDigit c = true) (enough : least ≤ digits.length)
    (rest : List Char) :
    number least digits.length (digits ++ rest) = some (digitsValue digits, rest) := by
  have taken : digits.takeWhile isAsciiDigit = digits := by
    have taken := takeWhile_append_stops run (stops_nil (p := isAsciiDigit))
    rwa [List.append_nil] at taken
  simp only [number, List.take_left', taken, if_pos enough, List.drop_left']

variable {width : Nat} {p : Char → Bool} (n : Digits width) (rest : List Char)

theorem Digits.number {least : Nat} (enough : least ≤ width) :
    number least width (n.text ++ rest) = some (n.value, rest) := by
  have read : Time.number least n.text.length (n.text ++ rest) = some (n.value, rest) :=
    number_run n.run (by rwa [n.length]) rest
  rwa [n.length] at read

theorem Digits.stops (filled : width ≠ 0) (apart : ∀ c, isAsciiDigit c = true → p c = false) :
    Stops p (n.text ++ rest) := by
  obtain ⟨text, length, run⟩ := n
  cases text with
  | nil => exact absurd length.symm filled
  | cons c text => exact stops_cons.mpr (apart c (run c List.mem_cons_self))

theorem Digits.head_ne (filled : width ≠ 0) {c : Char} (other : isAsciiDigit c = false) :
    ∀ d ∈ (n.text ++ rest).head?, d ≠ c := by
  have stops := n.stops rest (p := fun d => !isAsciiDigit d) filled fun d digit => by simp [digit]
  exact stops.head_ne (by simp [other])

theorem toNat_of_isAsciiDigit {c : Char} (digit : isAsciiDigit c = true) :
    48 ≤ c.toNat ∧ c.toNat ≤ 57 := by
  simpa [isAsciiDigit, Char.le_def, UInt32.le_iff_toNat_le] using digit

theorem isBlank_of_isAsciiDigit {c : Char} (digit : isAsciiDigit c = true) : isBlank c = false := by
  have bounds := toNat_of_isAsciiDigit digit
  have space : (c == ' ') = false := beq_eq_false_iff_ne.mpr (ne_of_class digit (by decide))
  have control : ¬ c ≤ '\r' := by
    rw [Char.le_def, UInt32.le_iff_toNat_le]
    have last : '\r'.val.toNat = 13 := rfl
    have same : c.val.toNat = c.toNat := rfl
    omega
  rw [isBlank, if_pos (by omega), space, decide_eq_false control, Bool.and_false, Bool.or_false]

theorem Digits.skipBlanks (filled : width ≠ 0) :
    skipBlanks (n.text ++ rest) = n.text ++ rest :=
  (n.stops rest filled fun _ => isBlank_of_isAsciiDigit).dropWhile

theorem Digits.signedYear (year : Digits 4) :
    signedYear (year.text ++ rest) = some ((year.value : Int), rest) := by
  have minus := year.head_ne rest (by decide) (show isAsciiDigit '-' = false by decide)
  have plus := year.head_ne rest (by decide) (show isAsciiDigit '+' = false by decide)
  have read := year.number rest (show 1 ≤ 4 by decide)
  generalize year.text ++ rest = s at minus plus read
  unfold Time.signedYear
  split
  · exact absurd rfl (minus _ rfl)
  · exact absurd rfl (plus _ rfl)
  · rw [read]
    rfl

theorem Digits.pair (n : Digits 2) (exact : Bool) :
    pair exact (n.text ++ rest) = some (n.value, rest) := by
  cases exact with
  | true => exact n.number rest (Nat.le_refl 2)
  | false =>
      rw [Time.pair, if_neg (by decide), n.skipBlanks rest (by decide)]
      exact n.number rest (by decide)

end Digits

section Pieces

/-- A format goes on behind its first piece. -/
theorem readPieces_cons {t t' : LocalTime} {s s' : List Char} {piece : Piece} {later : List Piece}
    (first : piece.read t s = some (t', s')) :
    readPieces t s (piece :: later) = readPieces t' s' later := by
  simp only [readPieces, first]

variable (t : LocalTime) (rest : List Char) (exact : Bool)

theorem read_char (c : Char) : (Piece.char c).read t (c :: rest) = some (t, rest) := by
  simp only [Piece.read, Scan.char_cons, Option.map_some]

theorem Digits.read_fullYear (year : Digits 4) :
    Piece.fullYear.read t (year.text ++ rest) = some ({ t with year := year.value }, rest) := by
  simp only [Piece.read, year.number rest (Nat.le_refl 4), Option.map_some]

theorem Digits.read_year (year : Digits 4) :
    Piece.year.read t (year.text ++ rest) = some ({ t with year := year.value }, rest) := by
  simp only [Piece.read, year.skipBlanks rest (by decide), year.signedYear, Option.map_some]

theorem Digits.read_month (n : Digits 2) :
    (Piece.month exact).read t (n.text ++ rest) = some ({ t with month := n.value }, rest) := by
  simp only [Piece.read, n.pair, Option.map_some]

theorem Digits.read_day (n : Digits 2) :
    (Piece.day exact).read t (n.text ++ rest) = some ({ t with day := n.value }, rest) := by
  simp only [Piece.read, n.pair, Option.map_some]

theorem Digits.read_hour (n : Digits 2) :
    (Piece.hour exact).read t (n.text ++ rest) = some ({ t with hour := n.value }, rest) := by
  simp only [Piece.read, n.pair, Option.map_some]

theorem Digits.read_minute (n : Digits 2) :
    (Piece.minute exact).read t (n.text ++ rest) = some ({ t with minute := n.value }, rest) := by
  simp only [Piece.read, n.pair, Option.map_some]

theorem Digits.read_second (n : Digits 2) :
    (Piece.second exact).read t (n.text ++ rest) = some ({ t with second := n.value }, rest) := by
  simp only [Piece.read, n.pair, Option.map_some]

def IsBehindSeconds (rest : List Char) : Prop :=
  Stops isAsciiDigit rest ∧ Stops (· == '.') rest

theorem Zone.isBehindSeconds (zone : Zone) : IsBehindSeconds zone.render := by
  cases zone with
  | absent => exact ⟨stops_nil, stops_nil⟩
  | zulu => exact ⟨stops_cons.mpr rfl, stops_cons.mpr rfl⟩
  | offset ahead hours colon minutes =>
      cases ahead
      · exact ⟨stops_cons.mpr rfl, stops_cons.mpr rfl⟩
      · exact ⟨stops_cons.mpr rfl, stops_cons.mpr rfl⟩

/-- Zeros behind a fraction do not change it. -/
theorem Seconds.nanos_eq (s : Seconds) :
    s.nanos = digitsValue (s.fraction.take 9) * 10 ^ (9 - (s.fraction.take 9).length) := by
  have filler : (List.replicate 9 '0').take (9 - s.fraction.length) =
      List.replicate (9 - (s.fraction.take 9).length) '0' := by
    rw [List.take_replicate, List.length_take]
    congr 1
    omega
  rw [nanos, List.take_append, filler, digitsValue_eq_ofDigitChars, digitsValue_eq_ofDigitChars,
    Nat.ofDigitChars_append, Nat.ofDigitChars_replicate_zero, Nat.mul_comm]

theorem Seconds.read_fraction (s : Seconds) (behind : IsBehindSeconds rest) :
    Piece.fraction.read t ((if s.fraction = [] then [] else '.' :: s.fraction) ++ rest) =
      some ({ t with nanos := s.nanos }, rest) := by
  rw [Piece.read]
  obtain ⟨noDigit, noPoint⟩ := behind
  by_cases none : s.fraction = []
  · have zero : s.nanos = 0 := by rw [nanos, none]; rfl
    rw [if_pos none, zero, List.nil_append]
    unfold Time.fraction
    split
    · exact absurd (stops_cons.mp noPoint) (by decide)
    · rfl
  · have digits : (s.fraction ++ rest).takeWhile isAsciiDigit = s.fraction :=
      takeWhile_append_stops s.run noDigit
    have filled : s.fraction.isEmpty = false := by
      rw [List.isEmpty_eq_false_iff]
      exact none
    rw [if_neg none, List.cons_append]
    show ((nanoseconds (s.fraction ++ rest)).map fun r => ({ t with nanos := r.1 }, r.2)) = _
    simp only [nanoseconds, digits, filled, Bool.false_eq_true, if_false, List.drop_left',
      Option.map_some, s.nanos_eq]
    rfl

end Pieces

section Offsets

variable {t : LocalTime} {between : List Char → Option (List Char)} {ahead colon : Bool}
  {hours minutes : Digits 2} {mid : List Char}

theorem signedOffset_of_some (colon : Bool) (passes : between mid = some minutes.text)
    (small : minutes.value ≤ 59) :
    signedOffset between ((if ahead then '+' else '-') :: (hours.text ++ mid)) =
      some ((Zone.offset ahead hours colon minutes).distance, []) := by
  have read := minutes.number [] (Nat.le_refl 2)
  have below : minutes.value < 60 := by omega
  rw [List.append_nil] at read
  cases ahead <;>
    simp [signedOffset, hours.number, passes, read, below, Zone.distance]

theorem signedOffset_of_none (stuck : between mid = none) :
    signedOffset between ((if ahead then '+' else '-') :: (hours.text ++ mid)) = none := by
  cases ahead <;> simp [signedOffset, hours.number, stuck]

theorem looseBetween_colon :
    looseBetween ((if colon then [':'] else []) ++ minutes.text) = some minutes.text := by
  have stops := minutes.stops [] (p := fun c => c == ':' || isBlank c) (by decide) fun c digit => by
    rw [isBlank_of_isAsciiDigit digit, beq_eq_false_iff_ne.mpr (ne_of_class digit (by decide)),
      Bool.or_false]
  rw [List.append_nil] at stops
  cases colon with
  | false => exact congrArg some stops.dropWhile
  | true =>
      rw [looseBetween, if_pos rfl, List.cons_append, List.nil_append,
        List.dropWhile_cons_of_pos (by decide), stops.dropWhile]

/-- An offset is read without a colon, too, but `Z` is not. -/
theorem read_looseOffset_offset (small : minutes.value ≤ 59) :
    Piece.looseOffset.read t (Zone.offset ahead hours colon minutes).render =
      some ({ t with offset := (Zone.offset ahead hours colon minutes).distance }, []) := by
  have first : skipBlanks (Zone.offset ahead hours colon minutes).render =
      (Zone.offset ahead hours colon minutes).render := by
    cases ahead <;> exact List.dropWhile_cons_of_neg (by decide)
  rw [Piece.read, first, Zone.render, signedOffset_of_some colon looseBetween_colon small,
    Option.map_some]

theorem read_offset_offset (small : minutes.value ≤ 59) :
    Piece.offset.read t (Zone.offset ahead hours colon minutes).render =
      if colon then some ({ t with offset := (Zone.offset ahead hours colon minutes).distance }, [])
      else none := by
  have noZulu : zulu (Zone.offset ahead hours colon minutes).render = none := by
    cases ahead <;> rfl
  rw [Piece.read, noZulu, Option.none_or, Zone.render]
  cases colon with
  | true =>
      rw [signedOffset_of_some true (by simp) small]
      rfl
  | false =>
      have stuck : Scan.char ':' minutes.text = none := by
        rw [← List.append_nil minutes.text]
        exact Scan.char_eq_none (minutes.head_ne [] (by decide) (by decide))
      rw [signedOffset_of_none (by simp [stuck])]
      rfl

end Offsets

section Formats

/-- What the pieces of a format make of the rest of a text, behind some fields. -/
def readOn (t : LocalTime) (s : List Char) (format : List Piece) : Option Instant :=
  match readPieces t s format with
  | some (t, []) => t.instant?
  | _ => none

variable (t : LocalTime)

theorem readOn_congr {t t' : LocalTime} {s s' : List Char} {format format' : List Piece}
    (same : readPieces t s format = readPieces t' s' format') :
    readOn t s format = readOn t' s' format' := by
  rw [readOn, readOn, same]

def Stamp.onDay (s : Stamp) : LocalTime :=
  { year := s.year.value, month := s.month.value, day := s.day.value }

theorem Stamp.readOn_date (s : Stamp) (later : List Piece) :
    readOn {} s.render (datePieces ++ later) =
      readOn s.onDay (s.clock.elim [] Clock.render) later := by
  apply readOn_congr
  rw [render, datePieces, List.cons_append, readPieces_cons (s.year.read_year _ _),
    List.cons_append, readPieces_cons (read_char _ _ _),
    List.cons_append, readPieces_cons (s.month.read_month _ _ _),
    List.cons_append, readPieces_cons (read_char _ _ _),
    List.cons_append, readPieces_cons (s.day.read_day _ _ _)]
  rfl

theorem Stamp.readOn_strictDate (s : Stamp) (later : List Piece) :
    readOn {} s.render
        (.fullYear :: .char '-' :: .month true :: .char '-' :: .day true :: later) =
      readOn s.onDay (s.clock.elim [] Clock.render) later := by
  apply readOn_congr
  rw [render, readPieces_cons (s.year.read_fullYear _ _), readPieces_cons (read_char _ _ _),
    readPieces_cons (s.month.read_month _ _ _), readPieces_cons (read_char _ _ _),
    readPieces_cons (s.day.read_day _ _ _)]
  rfl

theorem Clock.readOn_minute (c : Clock) {lead : Piece} {exact : Bool} {later : List Piece}
    (leads : ∀ rest, lead.read t ('T' :: rest) = some (t, rest)) :
    readOn t c.render (lead :: .hour exact :: .char ':' :: .minute exact :: later) =
      readOn { t with hour := c.hour.value, minute := c.minute.value }
        (c.seconds.elim [] Seconds.render ++ c.zone.render) later := by
  apply readOn_congr
  rw [render, readPieces_cons (leads _), readPieces_cons (c.hour.read_hour _ _ _),
    readPieces_cons (read_char _ _ _), readPieces_cons (c.minute.read_minute _ _ _)]

theorem Seconds.readOn_second (n : Seconds) {rest : List Char} (behind : IsBehindSeconds rest)
    {exact : Bool} {later : List Piece} :
    readOn t (n.render ++ rest) (.char ':' :: .second exact :: .fraction :: later) =
      readOn { t with second := n.whole.value, nanos := n.nanos } rest later := by
  apply readOn_congr
  rw [render, List.cons_append, readPieces_cons (read_char _ _ _), List.append_assoc,
    readPieces_cons (n.whole.read_second _ _ _), readPieces_cons (n.read_fraction _ _ behind)]

/-- What the formats have behind the date. -/
def clockFormats : List (List Piece) :=
  [[.separator, .hour true, .char ':', .minute true, .char ':', .second true, .fraction, .offset],
    [.char 'T', .hour false, .char ':', .minute false, .char ':', .second false, .fraction,
      .looseOffset],
    [.char 'T', .hour false, .char ':', .minute false, .looseOffset],
    [.char 'T', .hour false, .char ':', .minute false, .char ':', .second false, .fraction],
    [.char 'T', .hour false, .char ':', .minute false], []]

/-- What the formats have behind the minutes, but for the one of a date alone. -/
def secondFormats : List (List Piece) :=
  [[.char ':', .second true, .fraction, .offset],
    [.char ':', .second false, .fraction, .looseOffset],
    [.looseOffset], [.char ':', .second false, .fraction], []]

/-- What the formats with seconds have behind them. -/
def zoneFormats : List (List Piece) := [[.offset], [.looseOffset], []]

/-- All formats read the date of a stamp alike. -/
theorem Stamp.instant?_eq (s : Stamp) :
    Time.instant? (String.ofList s.render) =
      clockFormats.findSome? (readOn s.onDay (s.clock.elim [] Clock.render)) := by
  have strict (later : List Piece) : readAs
      (.fullYear :: .char '-' :: .month true :: .char '-' :: .day true :: later) s.render =
        readOn s.onDay (s.clock.elim [] Clock.render) later := s.readOn_strictDate later
  have other (later : List Piece) : readAs (datePieces ++ later) s.render =
      readOn s.onDay (s.clock.elim [] Clock.render) later := s.readOn_date later
  have appended : formats = [strictFormat,
      datePieces ++ [.char 'T', .hour false, .char ':', .minute false, .char ':', .second false,
        .fraction, .looseOffset],
      datePieces ++ [.char 'T', .hour false, .char ':', .minute false, .looseOffset],
      datePieces ++ [.char 'T', .hour false, .char ':', .minute false, .char ':', .second false,
        .fraction],
      datePieces ++ [.char 'T', .hour false, .char ':', .minute false], datePieces ++ []] := rfl
  simp only [Time.instant?, String.toList_ofList, appended, strictFormat, clockFormats,
    List.findSome?_cons, List.findSome?_nil, strict, other]

theorem Clock.findSome?_clockFormats (c : Clock) :
    clockFormats.findSome? (readOn t c.render) =
      secondFormats.findSome? (readOn { t with hour := c.hour.value, minute := c.minute.value }
        (c.seconds.elim [] Seconds.render ++ c.zone.render)) := by
  have nothing : readOn t c.render [] = none := rfl
  have strict (rest : List Char) : Piece.separator.read t ('T' :: rest) = some (t, rest) := rfl
  simp only [clockFormats, secondFormats, List.findSome?_cons, List.findSome?_nil, nothing,
    c.readOn_minute t strict, c.readOn_minute t (read_char t · 'T')]

theorem Seconds.findSome?_secondFormats (n : Seconds) (zone : Zone) :
    secondFormats.findSome? (readOn t (n.render ++ zone.render)) =
      zoneFormats.findSome?
        (readOn { t with second := n.whole.value, nanos := n.nanos } zone.render) := by
  have noZone : readOn t (n.render ++ zone.render) [.looseOffset] = none := rfl
  have nothing : readOn t (n.render ++ zone.render) [] = none := rfl
  simp only [secondFormats, zoneFormats, List.findSome?_cons, List.findSome?_nil, noZone, nothing,
    n.readOn_second t zone.isBehindSeconds]

theorem Zone.readOn_colon (zone : Zone) (later : List Piece) :
    readOn t zone.render (.char ':' :: later) = none := by
  cases zone with
  | absent | zulu => rfl
  | offset ahead hours colon minutes => cases ahead <;> rfl

/-- A date alone is midnight. -/
theorem findSome?_day {t : LocalTime} {at' : Instant} (named : t.instant? = some at') :
    clockFormats.findSome? (readOn t []) = some at' := by
  have last : readOn t [] [] = some at' := named
  simp only [clockFormats, List.findSome?_cons, last]
  rfl

section Zones

variable {zone : Zone} {at' : Instant}

theorem Zone.readOn_absent
    (named : ({ t with offset := absent.distance } : LocalTime).instant? = some at')
    (noOffset : t.offset = 0) : readOn t absent.render [] = some at' := by
  have same : ({ t with offset := absent.distance } : LocalTime) = t := by
    rw [distance, ← noOffset]
  rwa [same] at named

theorem Zone.readOn_looseOffset {ahead colon : Bool} {hours minutes : Digits 2}
    (valid : (offset ahead hours colon minutes).Valid)
    (named : ({ t with offset := (offset ahead hours colon minutes).distance } :
      LocalTime).instant? = some at') :
    readOn t (offset ahead hours colon minutes).render [.looseOffset] = some at' := by
  rw [readOn, readPieces_cons (read_looseOffset_offset valid.2)]
  exact named

/-- Behind the minutes no format has a `Z`. -/
theorem findSome?_minutes_zulu : secondFormats.findSome? (readOn t Zone.zulu.render) = none := rfl

theorem Zone.findSome?_minutes (valid : zone.Valid) (other : zone ≠ zulu)
    (named : ({ t with offset := zone.distance } : LocalTime).instant? = some at')
    (noOffset : t.offset = 0) :
    secondFormats.findSome? (readOn t zone.render) = some at' := by
  simp only [secondFormats, List.findSome?_cons, zone.readOn_colon]
  cases zone with
  | zulu => exact absurd rfl other
  | absent =>
      have stuck : readOn t absent.render [.looseOffset] = none := rfl
      rw [stuck, readOn_absent t named noOffset]
  | offset ahead hours colon minutes => rw [readOn_looseOffset t valid named]

/-- Behind the seconds, `Z` and an offset with a colon are of the first format, and an offset
without one is of the second. -/
theorem Zone.findSome?_zoneFormats (valid : zone.Valid)
    (named : ({ t with offset := zone.distance } : LocalTime).instant? = some at')
    (noOffset : t.offset = 0) :
    zoneFormats.findSome? (readOn t zone.render) = some at' := by
  simp only [zoneFormats, List.findSome?_cons]
  cases zone with
  | zulu =>
      have read : readOn t zulu.render [.offset] = some at' := named
      rw [read]
  | absent =>
      have strict : readOn t absent.render [.offset] = none := rfl
      have loose : readOn t absent.render [.looseOffset] = none := rfl
      rw [strict, loose, readOn_absent t named noOffset]
  | offset ahead hours colon minutes =>
      have strict : Piece.offset.read t (offset ahead hours colon minutes).render = _ :=
        read_offset_offset valid.2
      cases colon with
      | true =>
          have read : readOn t (offset ahead hours true minutes).render [.offset] = some at' := by
            rw [readOn, readPieces_cons strict]
            exact named
          rw [read]
      | false =>
          have unread : readOn t (offset ahead hours false minutes).render [.offset] = none := by
            simp only [readOn, readPieces, strict, Bool.false_eq_true, if_false]
          rw [unread, readOn_looseOffset t valid named]

end Zones

end Formats

section Instants

theorem digitsValue_lt {digits : List Char} (run : ∀ c ∈ digits, isAsciiDigit c = true) :
    digitsValue digits < 10 ^ digits.length := by
  induction digits using List.reverseRecOn with
  | nil => decide
  | append_singleton digits c inductionHypothesis =>
      have before := inductionHypothesis fun d member => run d (List.mem_append_left _ member)
      have bounds := toNat_of_isAsciiDigit
        (run c (List.mem_append_right _ (List.mem_singleton_self c)))
      have split : digitsValue (digits ++ [c]) = digitsValue digits * 10 + (c.toNat - 48) := by
        rw [digitsValue, List.foldl_append]
        rfl
      rw [split, List.length_append, List.length_singleton, Nat.pow_succ]
      omega

theorem Digits.value_lt {width : Nat} (n : Digits width) : n.value < 10 ^ width := by
  have bound := digitsValue_lt n.run
  rwa [n.length] at bound

theorem Seconds.nanos_lt (n : Seconds) : n.nanos < 1000000000 := by
  have run : ∀ c ∈ (n.fraction ++ List.replicate 9 '0').take 9, isAsciiDigit c = true := by
    intro c member
    rcases List.mem_append.mp (List.mem_of_mem_take member) with digit | filler
    · exact n.run c digit
    · rw [List.eq_of_mem_replicate filler]
      rfl
  have nine : ((n.fraction ++ List.replicate 9 '0').take 9).length = 9 := by
    rw [List.length_take, List.length_append, List.length_replicate]
    omega
  have bound := digitsValue_lt run
  rwa [nine] at bound

namespace Stamp

variable {s : Stamp}

theorem nanos_lt (s : Stamp) : s.nanos < 1000000000 := by
  rw [nanos]
  cases s.clock.bind Clock.seconds with
  | none => decide
  | some n => exact n.nanos_lt

/-- The local date and time, less the distance of its clock from UTC. -/
def instant (s : Stamp) : Instant where
  seconds := s.date.dayNumber * 86400 + s.secondOfDay - s.distance
  nanos := s.nanos
  nanos_lt := Nat.lt_trans s.nanos_lt (by decide)

/-- A time without seconds in front of a `Z`. -/
def Unread (s : Stamp) : Prop := ∃ c ∈ s.clock, c.seconds = none ∧ c.zone = .zulu

/-- Fields that are valid one by one are those of a local time. -/
theorem Valid.fields_bounds (valid : s.Valid) :
    s.fields.hour ≤ 23 ∧ s.fields.minute ≤ 59 ∧ s.fields.second ≤ 59 ∧
      -86400 < s.fields.offset ∧ s.fields.offset < 86400 := by
  obtain ⟨year, month, day, clock⟩ := s
  cases clock with
  | none => exact ⟨Nat.zero_le _, Nat.zero_le _, Nat.zero_le _, (by decide : (-86400 : Int) < 0),
        (by decide : (0 : Int) < 86400)⟩
  | some c =>
      obtain ⟨hour, minute, second, zone⟩ := valid.clock c rfl
      obtain ⟨hours, minutes, seconds, zone'⟩ := c
      have told :
          (fields ⟨year, month, day, some ⟨hours, minutes, seconds, zone'⟩⟩).second ≤ 59 := by
        cases seconds with
        | none => exact Nat.zero_le _
        | some n => exact second n rfl
      refine ⟨hour, minute, told, ?_⟩
      show -86400 < zone'.distance ∧ zone'.distance < 86400
      cases zone' with
      | absent | zulu => exact ⟨by decide, by decide⟩
      | offset ahead hours colon minutes =>
          obtain ⟨first, last⟩ := zone
          rw [Zone.distance]
          split <;> omega

theorem secondOfDay_eq (s : Stamp) :
    s.secondOfDay = s.fields.hour * 3600 + s.fields.minute * 60 + s.fields.second := by
  obtain ⟨year, month, day, clock⟩ := s
  rw [secondOfDay]
  cases clock with
  | none => simp [fields]
  | some c => cases told : c.seconds <;> simp [fields, told]

theorem Valid.instant?_fields (valid : s.Valid) : s.fields.instant? = some s.instant := by
  obtain ⟨hour, minute, second, behind, ahead⟩ := valid.fields_bounds
  have day : s.fields.date = s.date := rfl
  have clock : s.fields.clockSeconds - s.fields.offset = s.instant.seconds := by
    have whole := s.secondOfDay_eq
    have distance : s.fields.offset = s.distance := rfl
    simp only [LocalTime.clockSeconds, day, instant, distance]
    omega
  have years : firstYear ≤ (Date.ofDayNumber (s.instant.seconds / 86400)).year ∧
      (Date.ofDayNumber (s.instant.seconds / 86400)).year ≤ lastYear := by
    have digits : s.year.value < 10000 := s.year.value_lt
    obtain ⟨first, last⟩ := Date.dayNumber_bounds valid.date (Int.natCast_nonneg s.year.value)
      (show (s.year.value : Int) ≤ 9999 by omega)
    rw [← clock, LocalTime.clockSeconds, day]
    apply Date.year_ofDayNumber_bounds <;> omega
  have ordinary : s.fields.second ≠ 60 := by omega
  have noLeap : s.fields.nanos < 2000000000 := Nat.lt_trans s.nanos_lt (by decide)
  have inRange : (s.fields.date.isValid && decide (s.fields.hour < 24) &&
      decide (s.fields.minute < 60) && decide (s.fields.second ≤ 60) &&
        decide (-86400 < s.fields.offset) && decide (s.fields.offset < 86400)) = true := by
    simp only [day, valid.date, Bool.true_and, Bool.and_eq_true, decide_eq_true_eq]
    omega
  simp only [LocalTime.instant?, if_neg ordinary, inRange, if_true, clock, years, decide_true,
    Bool.and_self, dif_pos noLeap]
  rfl

theorem instant?_of_valid (valid : s.Valid) (read : ¬ s.Unread) :
    Time.instant? (String.ofList s.render) = some s.instant := by
  rw [instant?_eq]
  have named := valid.instant?_fields
  generalize s.instant = at' at named ⊢
  have each := valid.clock
  obtain ⟨year, month, day, clock⟩ := s
  cases clock with
  | none => exact findSome?_day named
  | some c =>
      rw [Option.elim_some, c.findSome?_clockFormats]
      have zone := (each c rfl).zone
      obtain ⟨hour, minute, seconds, zone'⟩ := c
      cases seconds with
      | none =>
          have other : zone' ≠ .zulu := fun same => read ⟨_, rfl, rfl, same⟩
          exact Zone.findSome?_minutes _ zone other named rfl
      | some n =>
          rw [Option.elim_some, n.findSome?_secondFormats]
          exact Zone.findSome?_zoneFormats _ zone named rfl

theorem instant?_of_unread (unread : s.Unread) : Time.instant? (String.ofList s.render) = none := by
  obtain ⟨c, told, noSeconds, zulu⟩ := unread
  rw [instant?_eq, Option.mem_def.mp told, Option.elim_some, c.findSome?_clockFormats, noSeconds,
    zulu]
  exact findSome?_minutes_zulu _

end Stamp

end Instants

end RecordSearch.Time
