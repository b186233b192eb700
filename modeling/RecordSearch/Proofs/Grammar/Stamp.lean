import RecordSearch.Grammar.Lexeme
import RecordSearch.Proofs.Time.Stamp

/-!
# Dates of queries are stamps

What the query language takes for a date is a stamp, and so the formats of dates read it if its
fields are valid.  The one exception is a time without seconds in front of a `Z`, which is a date of
the language and of no format.
-/

namespace RecordSearch

open RecordSearch.Grammar RecordSearch.Text
open RecordSearch.Time (Digits Zone Seconds Clock Stamp Instant)

namespace Text.Scan

variable {scan other : Scan (List Char)} {scans : List (Scan (List Char))} {taken : List Char}

/-- A scan takes these characters from some text. -/
def MayTake (scan : Scan (List Char)) (taken : List Char) : Prop :=
  ∃ s rest, scan s = Option.some (taken, rest)

def Parts : List (Scan (List Char)) → List Char → Prop
  | [], taken => taken = []
  | scan :: scans, taken =>
    ∃ first later, MayTake scan first ∧ Parts scans later ∧ taken = first ++ later

theorem parts_of_sequence (may : MayTake (sequence scans) taken) : Parts scans taken := by
  obtain ⟨s, rest, read⟩ := may
  induction scans generalizing s taken with
  | nil =>
      cases read
      rfl
  | cons scan scans inductionHypothesis =>
      obtain ⟨first, mid, later, here, there, rfl⟩ := sequence_cons_eq_some read
      exact ⟨first, later, ⟨s, mid, here⟩, inductionHypothesis mid there, rfl⟩

theorem eq_of_mayTake_char {c : Char} (may : MayTake (char c) taken) : taken = [c] := by
  obtain ⟨s, rest, read⟩ := may
  exact (char_eq_some read).1

theorem MayTake.either (may : MayTake (either scan other) taken) :
    MayTake scan taken ∨ MayTake other taken := by
  obtain ⟨s, rest, read⟩ := may
  rw [Scan.either, Option.or_eq_some_iff] at read
  rcases read with here | ⟨-, there⟩
  · exact .inl ⟨s, rest, here⟩
  · exact .inr ⟨s, rest, there⟩

theorem MayTake.optional (may : MayTake (optional scan) taken) :
    MayTake scan taken ∨ taken = [] := by
  obtain ⟨s, rest, read⟩ := may
  rcases optional_eq_some read with here | ⟨none, -⟩
  · exact .inl ⟨s, rest, here⟩
  · exact .inr none

theorem exists_optional {α : Type} {render : α → List Char}
    (each : ∀ {taken}, MayTake scan taken → ∃ a, taken = render a)
    (may : MayTake (optional scan) taken) : ∃ a : Option α, taken = a.elim [] render := by
  rcases may.optional with found | none
  · obtain ⟨a, same⟩ := each found
    exact ⟨Option.some a, same⟩
  · exact ⟨.none, none⟩

end Text.Scan

namespace Grammar

open Scan (MayTake parts_of_sequence eq_of_mayTake_char exists_optional)

variable {taken : List Char}

theorem exists_digits {width : Nat} (may : MayTake (.exactly isAsciiDigit width) taken) :
    ∃ n : Digits width, taken = n.text := by
  obtain ⟨s, rest, read⟩ := may
  exact ⟨⟨taken, Scan.length_of_exactly read, (Scan.exactly_eq_some read).2⟩, rfl⟩

theorem exists_zone (may : MayTake zoneText taken) : ∃ z : Zone, taken = z.render := by
  rcases may.either with zulu | offset
  · exact ⟨.zulu, eq_of_mayTake_char zulu⟩
  · obtain ⟨sign, _, signed, ⟨_, _, first, ⟨colon, _, between, ⟨_, _, second, rfl, rfl⟩, rfl⟩, rfl⟩,
      rfl⟩ := parts_of_sequence offset
    obtain ⟨hours, rfl⟩ := exists_digits first
    obtain ⟨minutes, rfl⟩ := exists_digits second
    have ahead : ∃ ahead : Bool, sign = [if ahead then '+' else '-'] := by
      rcases signed.either with plus | minus
      · exact ⟨true, eq_of_mayTake_char plus⟩
      · exact ⟨false, eq_of_mayTake_char minus⟩
    have parted : ∃ parted : Bool, colon = if parted then [':'] else [] := by
      rcases between.optional with found | none
      · exact ⟨true, eq_of_mayTake_char found⟩
      · exact ⟨false, none⟩
    obtain ⟨ahead, rfl⟩ := ahead
    obtain ⟨parted, rfl⟩ := parted
    refine ⟨.offset ahead hours parted minutes, ?_⟩
    rw [Zone.render, List.append_nil]
    rfl

theorem exists_seconds (may : MayTake secondText taken) : ∃ n : Seconds, taken = n.render := by
  obtain ⟨_, _, colon, ⟨_, _, second, ⟨part, _, behind, rfl, rfl⟩, rfl⟩, rfl⟩ :=
    parts_of_sequence may
  obtain rfl := eq_of_mayTake_char colon
  obtain ⟨whole, rfl⟩ := exists_digits second
  rw [List.append_nil]
  rcases behind.optional with point | rfl
  · obtain ⟨_, _, first, ⟨digits, _, ⟨_, _, read⟩, rfl, rfl⟩, rfl⟩ := parts_of_sequence point
    obtain rfl := eq_of_mayTake_char first
    obtain ⟨-, filled, run⟩ := Scan.some_eq_some read
    refine ⟨⟨whole, digits, run⟩, ?_⟩
    rw [Seconds.render, if_neg filled, List.append_nil]
    rfl
  · refine ⟨⟨whole, [], List.forall_mem_nil _⟩, ?_⟩
    rw [Seconds.render, if_pos rfl]
    rfl

theorem exists_clock (may : MayTake timeText taken) : ∃ c : Clock, taken = c.render := by
  obtain ⟨_, _, lead, ⟨_, _, hours, ⟨_, _, colon, ⟨_, _, minutes, ⟨second, _, seconds,
    ⟨offset, _, zone, rfl, rfl⟩, rfl⟩, rfl⟩, rfl⟩, rfl⟩, rfl⟩ := parts_of_sequence may
  obtain rfl := eq_of_mayTake_char lead
  obtain rfl := eq_of_mayTake_char colon
  obtain ⟨hour, rfl⟩ := exists_digits hours
  obtain ⟨minute, rfl⟩ := exists_digits minutes
  have distant : ∃ z : Zone, offset = z.render := by
    rcases zone.optional with found | none
    · exact exists_zone found
    · exact ⟨.absent, none⟩
  obtain ⟨n, rfl⟩ := exists_optional exists_seconds seconds
  obtain ⟨z, rfl⟩ := distant
  refine ⟨⟨hour, minute, n, z⟩, ?_⟩
  rw [Clock.render, List.append_nil]
  rfl

theorem exists_stamp {s rest : List Char} (read : dateText s = some (taken, rest)) :
    ∃ t : Stamp, taken = t.render := by
  obtain ⟨_, _, years, ⟨_, _, first, ⟨_, _, months, ⟨_, _, second, ⟨_, _, days,
    ⟨time, _, clock, rfl, rfl⟩, rfl⟩, rfl⟩, rfl⟩, rfl⟩, rfl⟩ :=
      parts_of_sequence ⟨s, rest, Scan.closed_eq_some read⟩
  obtain rfl := eq_of_mayTake_char first
  obtain rfl := eq_of_mayTake_char second
  obtain ⟨year, rfl⟩ := exists_digits years
  obtain ⟨month, rfl⟩ := exists_digits months
  obtain ⟨day, rfl⟩ := exists_digits days
  obtain ⟨c, rfl⟩ := exists_optional exists_clock clock
  refine ⟨⟨year, month, day, c⟩, ?_⟩
  rw [Stamp.render, List.append_nil]
  rfl

/-- A date of the query language whose fields are valid is read as the moment that it names, unless
it is a time without seconds in front of a `Z`. -/
theorem instant?_of_dateText {q : String} (lexed : dateText q.toList = some (q.toList, [])) :
    (∃ t : Stamp, q.toList = t.render) ∧
      ∀ t : Stamp, q.toList = t.render → t.Valid →
        (Time.instant? q = some t.instant ↔ ¬ t.Unread) ∧
          (t.Unread → Time.instant? q = none) := by
  obtain ⟨t, same⟩ := exists_stamp lexed
  refine ⟨⟨t, same⟩, fun t same valid => ?_⟩
  have unread (unread : t.Unread) : Time.instant? q = none := by
    rw [← q.ofList_toList, same]
    exact t.instant?_of_unread unread
  refine ⟨⟨fun read no => ?_, fun read => ?_⟩, unread⟩
  · rw [unread no] at read
    cases read
  · rw [← q.ofList_toList, same]
    exact Stamp.instant?_of_valid valid read

/-- An offset without a colon puts the moment on the day after, which is in March. -/
theorem instant?_of_dateText_leap :
    dateText "2019-02-28T22:30:15.5-0130".toList = some ("2019-02-28T22:30:15.5-0130".toList, []) ∧
      Time.instant? "2019-02-28T22:30:15.5-0130" = some ⟨1551398415, 500000000, by decide⟩ := by
  let t : Stamp := {
    year := .ofText "2019" rfl rfl
    month := .ofText "02" rfl rfl
    day := .ofText "28" rfl rfl
    clock := some {
      hour := .ofText "22" rfl rfl
      minute := .ofText "30" rfl rfl
      seconds := some ⟨.ofText "15" rfl rfl, "5".toList, List.all_eq_true.mp rfl⟩
      zone := .offset false (.ofText "01" rfl rfl) false (.ofText "30" rfl rfl) } }
  have lexed : dateText "2019-02-28T22:30:15.5-0130".toList =
      some ("2019-02-28T22:30:15.5-0130".toList, []) := by decide +kernel
  have valid : t.Valid := by
    refine ⟨by decide +kernel, fun c told => ?_⟩
    cases told
    refine ⟨by decide, by decide, fun n told => ?_, by decide, by decide⟩
    cases told
    decide
  have read : ¬ t.Unread := by
    rintro ⟨c, told, noSeconds, -⟩
    cases told
    cases noSeconds
  refine ⟨lexed, ?_⟩
  rw [((instant?_of_dateText lexed).2 t rfl valid).1.mpr read]
  decide +kernel

/-- A valid date of the language that no format reads. -/
theorem instant?_of_dateText_unread :
    dateText "2020-01-02T00:00Z".toList = some ("2020-01-02T00:00Z".toList, []) ∧
      (∃ t : Stamp, "2020-01-02T00:00Z".toList = t.render ∧ t.Valid ∧
        t.instant = .ofSeconds 1577923200) ∧
      Time.instant? "2020-01-02T00:00Z" = none := by
  let t : Stamp := {
    year := .ofText "2020" rfl rfl
    month := .ofText "01" rfl rfl
    day := .ofText "02" rfl rfl
    clock := some {
      hour := .ofText "00" rfl rfl
      minute := .ofText "00" rfl rfl
      seconds := none
      zone := .zulu } }
  have valid : t.Valid := by
    refine ⟨by decide +kernel, fun c told => ?_⟩
    cases told
    exact ⟨by decide, by decide, nofun, trivial⟩
  refine ⟨by decide +kernel, ⟨t, rfl, valid, by decide +kernel⟩, ?_⟩
  exact t.instant?_of_unread ⟨_, rfl, rfl, rfl⟩

end Grammar

end RecordSearch
