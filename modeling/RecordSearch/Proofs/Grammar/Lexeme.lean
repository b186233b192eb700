import RecordSearch.Grammar.Lexeme
import RecordSearch.Text.Quoted
import RecordSearch.Proofs.Text.Scan
import RecordSearch.Proofs.Time.Printer

/-!
# Words of the query language that are put together

A keyword is found by the word that a text begins with, and names, quoted texts, numbers and dates
are read whole in front of a character that cannot go on with them.
-/

namespace RecordSearch.Grammar

open RecordSearch.Text
open RecordSearch.Time

variable {s name rest : List Char}

section Keywords

/-- The word that a text begins with, in lower case. -/
def headWord (s : List Char) : List Char := (s.takeWhile isNameChar).map asciiLower

def IsWord (word : String) : Prop := ∀ c ∈ word.toList, isAsciiLower c = true

instance (word : String) : Decidable (IsWord word) :=
  List.decidableBAll (fun c => isAsciiLower c = true) word.toList

theorem isNameChar_of_asciiLower {c : Char} (letter : isAsciiLower (asciiLower c) = true) :
    isNameChar c = true := by
  by_cases upper : isAsciiUpper c = true
  · simp [isNameChar, isAsciiLetter, upper]
  · rw [asciiLower, if_neg upper] at letter
    simp [isNameChar, isAsciiLetter, letter]

theorem headWord_append (run : ∀ c ∈ name, isNameChar c = true) (stops : Stops isNameChar rest) :
    headWord (name ++ rest) = name.map asciiLower := by
  rw [headWord, takeWhile_append_stops run stops]

/-- A word that is taken up to the end of a name is the word that the text begins with. -/
theorem takeWhile_of_caseless {word : String} (letters : IsWord word) {taken : List Char}
    (read : Scan.caseless word.toList s = some (taken, rest)) (stops : Stops isNameChar rest) :
    s.takeWhile isNameChar = taken ∧ s.dropWhile isNameChar = rest ∧ headWord s = word.toList := by
  obtain ⟨rfl, lowered⟩ := Scan.caseless_eq_some_iff.mp read
  have run : ∀ c ∈ taken, isNameChar c = true := fun c member =>
    isNameChar_of_asciiLower (letters _ (lowered ▸ List.mem_map_of_mem member))
  exact ⟨takeWhile_append_stops run stops, dropWhile_append_stops run stops,
    (headWord_append run stops).trans lowered⟩

theorem keyword_of_headWord {word : String} (same : headWord s = word.toList) :
    keyword word s = some (s.takeWhile isNameChar, s.dropWhile isNameChar) :=
  Scan.closed_of_some
    (Scan.caseless_eq_some_iff.mpr ⟨List.takeWhile_append_dropWhile.symm, same⟩)
    (stops_dropWhile s)

theorem keyword_eq_none {word : String} (letters : IsWord word)
    (other : headWord s ≠ word.toList) : keyword word s = none := by
  cases read : Scan.caseless word.toList s with
  | none => exact Scan.closed_of_none read
  | some r =>
      obtain ⟨taken, rest⟩ := r
      cases rest with
      | nil => exact absurd (takeWhile_of_caseless letters read stops_nil).2.2 other
      | cons c rest =>
          cases goesOn : isNameChar c with
          | true => simp [keyword, Scan.closed, read, goesOn]
          | false =>
              exact absurd (takeWhile_of_caseless letters read (stops_cons.mpr goesOn)).2.2 other

theorem isWord_of_mem_reservedWords : ∀ word ∈ reservedWords, IsWord word := by decide

theorem beginsReserved_eq_false (unreserved : ∀ word ∈ reservedWords, headWord s ≠ word.toList) :
    beginsReserved s = false := by
  unfold beginsReserved
  cases found : reservedWords.findSome? fun word => Scan.caseless word.toList s with
  | none => rfl
  | some r =>
      obtain ⟨taken, rest⟩ := r
      obtain ⟨word, member, read⟩ := List.exists_of_findSome?_eq_some found
      have letters := isWord_of_mem_reservedWords word member
      cases rest with
      | nil =>
          exact absurd (takeWhile_of_caseless letters read stops_nil).2.2 (unreserved word member)
      | cons c rest =>
          cases goesOn : isNameChar c with
          | true => simp [goesOn]
          | false =>
              have same := (takeWhile_of_caseless letters read (stops_cons.mpr goesOn)).2.2
              exact absurd same (unreserved word member)

end Keywords

section Names

theorem isNameChar_of_isNameStart {c : Char} (start : isNameStart c = true) :
    isNameChar c = true := by
  rcases Bool.or_eq_true _ _ ▸ start with letter | underscore
  · simp [isNameChar, letter]
  · simp [isNameChar, underscore]

structure IsName (name : List Char) : Prop where
  start : ∃ c later, name = c :: later ∧ isNameStart c = true ∧ ∀ d ∈ later, isNameChar d = true
  unreserved : ∀ word ∈ reservedWords, name.map asciiLower ≠ word.toList

theorem IsName.run (proper : IsName name) : ∀ c ∈ name, isNameChar c = true := by
  obtain ⟨c, later, rfl, start, run⟩ := proper.start
  exact List.forall_mem_cons.mpr ⟨isNameChar_of_isNameStart start, run⟩

theorem IsName.headWord (proper : IsName name) (stops : Stops isNameChar rest) :
    headWord (name ++ rest) = name.map asciiLower :=
  headWord_append proper.run stops

theorem plainName_append (proper : IsName name) (stops : Stops isNameChar rest) :
    plainName (name ++ rest) = some (name, rest) := by
  have unreserved : beginsReserved (name ++ rest) = false := by
    refine beginsReserved_eq_false ?_
    rw [proper.headWord stops]
    exact proper.unreserved
  obtain ⟨c, later, rfl, start, run⟩ := proper.start
  have first : Scan.one isNameStart (c :: later ++ rest) = some ([c], later ++ rest) := by
    simp [Scan.one, start]
  have others := Scan.optional_some_append run stops
  simp only [plainName, unreserved, Bool.false_eq_true, if_false, Scan.sequence_cons_of_some first,
    Scan.sequence_cons_of_some others, Scan.sequence_nil, Option.map_some, List.append_nil]
  rfl

theorem bareName_append (proper : IsName name) (other : name.map asciiLower ≠ "id".toList)
    (stops : Stops isNameChar rest) : bareName (name ++ rest) = some (name, rest) := by
  have notId : keyword "id" (name ++ rest) = none :=
    keyword_eq_none (by decide) (by rwa [proper.headWord stops])
  simp only [bareName, notId, Option.isSome_none, Bool.false_eq_true, if_false,
    plainName_append proper stops]

end Names

section Texts

theorem quotedText_eq_none (other : ∀ c ∈ s.head?, c ≠ '\'') : quotedText s = none := by
  cases s with
  | nil => rfl
  | cons c s =>
      have apart : c ≠ '\'' := other c rfl
      unfold quotedText
      split
      · next rest same => exact absurd (List.cons.inj same).1 apart
      · rfl

theorem textBody_cons {c : Char} (plain : c ≠ '\'') (done s : List Char) :
    textBody done (c :: s) = textBody (c :: done) s := by
  rw [textBody]
  · intro later same _
    exact plain same
  · exact plain

theorem textBody_quote (done : List Char) (stops : Stops (· == '\'') rest) :
    textBody done ('\'' :: rest) = some (done.reverse, rest) := by
  cases rest with
  | nil => rfl
  | cons c rest =>
      have apart : c ≠ '\'' := by simpa using stops_cons.mp stops
      rw [textBody]
      intro later same
      exact apart (List.cons.inj same).1

theorem textBody_double (done s : List Char) (stops : Stops (· == '\'') rest) :
    textBody done (Quoted.double s ++ '\'' :: rest) = some (done.reverse ++ s, rest) := by
  induction s generalizing done with
  | nil => simpa [Quoted.double] using textBody_quote done stops
  | cons c s inductionHypothesis =>
      by_cases quote : c = '\''
      · subst quote
        simpa [Quoted.double, textBody] using inductionHypothesis ('\'' :: done)
      · have later := inductionHypothesis (c :: done)
        simp only [Quoted.double, List.flatMap_cons, if_neg quote, List.cons_append,
          List.nil_append, textBody_cons quote]
        simpa [Quoted.double] using later

/-- A quoted text is read back, with every quote in it single again. -/
theorem quotedText_literal (s : List Char) (stops : Stops (· == '\'') rest) :
    quotedText (Quoted.literal s ++ rest) = some (s, rest) := by
  simpa [Quoted.literal, quotedText] using textBody_double [] s stops

end Texts

section Numbers

def IsDigits (s : List Char) : Prop := s ≠ [] ∧ ∀ c ∈ s, isAsciiDigit c = true

def IsNumeral (s : List Char) : Prop :=
  ∃ sign whole fraction, s = sign ++ (whole ++ fraction) ∧ (sign = [] ∨ sign = ['-']) ∧
    IsDigits whole ∧ (fraction = [] ∨ ∃ digits, fraction = '.' :: digits ∧ IsDigits digits)

/-- A character that goes on with a word, a quoted text, a number or a date. -/
def goesOn (c : Char) : Bool := isNameChar c || c == '\'' || c == '-'

theorem stops_isNameChar (stops : Stops goesOn rest) : Stops isNameChar rest :=
  stops.mono fun c inClass => by simp [goesOn, inClass]

theorem stops_quote (stops : Stops goesOn rest) : Stops (· == '\'') rest :=
  stops.mono fun c inClass => by simp [goesOn, inClass]

theorem stops_isAsciiDigit (stops : Stops goesOn rest) : Stops isAsciiDigit rest :=
  stops.mono fun c inClass => by simp [goesOn, isNameChar, inClass]

theorem IsDigits.some_append (digits : IsDigits s) (stops : Stops isAsciiDigit rest) :
    Scan.some isAsciiDigit (s ++ rest) = some (s, rest) :=
  Scan.some_append digits.1 digits.2 stops

theorem fraction_append {fraction : List Char}
    (form : fraction = [] ∨ ∃ digits, fraction = '.' :: digits ∧ IsDigits digits)
    (stops : Stops goesOn rest) :
    Scan.optional (.sequence [.char '.', .some isAsciiDigit]) (fraction ++ rest) =
      some (fraction, rest) := by
  rcases form with rfl | ⟨digits, rfl, proper⟩
  · have noPoint : Scan.char '.' rest = none :=
      Scan.char_eq_none (stops.head_ne (by decide))
    exact Scan.optional_of_none (Scan.sequence_cons_of_none noPoint)
  · have run := proper.some_append (stops_isAsciiDigit stops)
    refine Scan.optional_of_some ?_
    rw [List.cons_append, Scan.sequence_cons_of_some (Scan.char_cons '.' _),
      Scan.sequence_cons_of_some run]
    simp

theorem stops_fraction {fraction : List Char}
    (form : fraction = [] ∨ ∃ digits, fraction = '.' :: digits ∧ IsDigits digits)
    (stops : Stops goesOn rest) : Stops isAsciiDigit (fraction ++ rest) := by
  rcases form with rfl | ⟨digits, rfl, -⟩
  · exact stops_isAsciiDigit stops
  · exact stops_cons.mpr (by decide)

theorem sign_append {sign : List Char} (form : sign = [] ∨ sign = ['-'])
    (other : ∀ c ∈ rest.head?, c ≠ '-') :
    Scan.optional (.char '-') (sign ++ rest) = some (sign, rest) := by
  rcases form with rfl | rfl
  · exact Scan.optional_of_none (Scan.char_eq_none other)
  · exact Scan.optional_of_some (Scan.char_cons '-' rest)

theorem IsDigits.head (digits : IsDigits s) (rest : List Char) :
    ∀ c ∈ (s ++ rest).head?, isAsciiDigit c = true := by
  obtain ⟨filled, run⟩ := digits
  cases s with
  | nil => exact absurd rfl filled
  | cons d s => simpa using run d (by simp)

theorem IsNumeral.head (numeral : IsNumeral s) (rest : List Char) :
    ∀ c ∈ (s ++ rest).head?, c = '-' ∨ isAsciiDigit c = true := by
  obtain ⟨sign, whole, fraction, rfl, rfl | rfl, proper, -⟩ := numeral
  · intro c head
    rw [List.nil_append, List.append_assoc] at head
    exact Or.inr (proper.head _ c head)
  · rintro c ⟨⟩
    exact Or.inl rfl

theorem numberText_append (numeral : IsNumeral s) (stops : Stops goesOn rest) :
    numberText (s ++ rest) = some (s, rest) := by
  obtain ⟨sign, whole, fraction, rfl, signed, proper, pointed⟩ := numeral
  have noSign : ∀ c ∈ (whole ++ (fraction ++ rest)).head?, c ≠ '-' := fun c head =>
    ne_of_class (proper.head _ c head) (by decide)
  refine Scan.closed_of_some ?_ (stops_isNameChar stops)
  rw [List.append_assoc, List.append_assoc, Scan.sequence_cons_of_some (sign_append signed noSign),
    Scan.sequence_cons_of_some (proper.some_append (stops_fraction pointed stops)),
    Scan.sequence_cons_of_some (fraction_append pointed stops)]
  simp

/-- No date begins where a number stands: its digits are not followed by a dash. -/
theorem dateText_numeral (numeral : IsNumeral s) (stops : Stops goesOn rest) :
    dateText (s ++ rest) = none := by
  obtain ⟨sign, whole, fraction, rfl, signed, proper, pointed⟩ := numeral
  refine Scan.closed_of_none ?_
  rcases signed with rfl | rfl
  · cases year : Scan.exactly isAsciiDigit 4 (whole ++ fraction ++ rest) with
    | none => exact Scan.sequence_cons_of_none year
    | some r =>
        obtain ⟨taken, behind⟩ := r
        obtain ⟨text, run⟩ := Scan.exactly_eq_some year
        rw [List.nil_append, Scan.sequence_cons_of_some year, Option.map_eq_none_iff]
        refine Scan.sequence_cons_of_none (Scan.char_eq_none ?_)
        rintro c head rfl
        obtain ⟨later, rfl⟩ : ∃ later, behind = '-' :: later := List.head?_eq_some_iff.mp head
        have same : fraction ++ rest = '-' :: later := by
          rw [← dropWhile_append_stops proper.2 (stops_fraction pointed stops),
            ← dropWhile_append_stops run (stops_cons.mpr (by decide)), ← text, List.append_assoc]
        rcases pointed with rfl | ⟨digits, rfl, -⟩
        · have dash : '-' ∈ rest.head? := by simp [show rest = '-' :: later from same]
          exact stops.head_ne (by decide) '-' dash rfl
        · exact absurd (List.cons.inj same).1 (by decide)
  · exact Scan.sequence_cons_of_none (by simp [Scan.exactly, isAsciiDigit])

end Numbers

section Dates

theorem zoneText_zulu (rest : List Char) : zoneText ('Z' :: rest) = some (['Z'], rest) := by
  simp [zoneText, Scan.either]

theorem secondText_padded {second : Nat} (fits : second < 100) (rest : List Char) :
    secondText (':' :: (padded 2 second ++ 'Z' :: rest)) =
      some (':' :: padded 2 second, 'Z' :: rest) := by
  have field : twoDigits (padded 2 second ++ 'Z' :: rest) = some (padded 2 second, 'Z' :: rest) :=
    exactly_padded (by decide) fits _
  have noFraction : Scan.optional (.sequence [.char '.', .some isAsciiDigit]) ('Z' :: rest) =
      some ([], 'Z' :: rest) :=
    Scan.optional_of_none (Scan.sequence_cons_of_none (Scan.char_eq_none (by simp)))
  rw [secondText, Scan.sequence_cons_of_some (Scan.char_cons ':' _),
    Scan.sequence_cons_of_some field, Scan.sequence_cons_of_some noFraction]
  simp

theorem timeText_padded {hour minute second : Nat} (hours : hour < 100) (minutes : minute < 100)
    (seconds : second < 100) (rest : List Char) :
    timeText ('T' :: (padded 2 hour ++ ':' :: (padded 2 minute ++ ':' ::
      (padded 2 second ++ 'Z' :: rest)))) =
        some ('T' :: (padded 2 hour ++ ':' :: (padded 2 minute ++ ':' ::
          (padded 2 second ++ ['Z']))), rest) := by
  have field {n : Nat} (fits : n < 100) (tail : List Char) :
      twoDigits (padded 2 n ++ tail) = some (padded 2 n, tail) :=
    exactly_padded (by decide) fits tail
  rw [timeText, Scan.sequence_cons_of_some (Scan.char_cons 'T' _),
    Scan.sequence_cons_of_some (field hours _), Scan.sequence_cons_of_some (Scan.char_cons ':' _),
    Scan.sequence_cons_of_some (field minutes _),
    Scan.sequence_cons_of_some (Scan.optional_of_some (secondText_padded seconds rest)),
    Scan.sequence_cons_of_some (Scan.optional_of_some (zoneText_zulu rest))]
  simp

theorem dateText_render {at' : Instant} (plain : at'.IsPlain) (stops : Stops goesOn rest) :
    dateText (at'.render ++ rest) = some (at'.render, rest) := by
  obtain ⟨years, months, days, hours, minutes, seconds⟩ := Instant.fields_bounds plain
  have field {n : Nat} (fits : n < 100) (tail : List Char) :
      twoDigits (padded 2 n ++ tail) = some (padded 2 n, tail) :=
    exactly_padded (by decide) fits tail
  have year (tail : List Char) : Scan.exactly isAsciiDigit 4
      (padded 4 at'.fields.year.toNat ++ tail) = some (padded 4 at'.fields.year.toNat, tail) :=
    exactly_padded (by decide) years tail
  have time := timeText_padded (show at'.fields.hour < 100 by omega)
    (show at'.fields.minute < 100 by omega) (show at'.fields.second < 100 by omega) rest
  refine Scan.closed_of_some ?_ (stops_isNameChar stops)
  rw [Instant.render_of_isPlain plain]
  simp only [List.append_assoc, List.cons_append, List.nil_append]
  rw [Scan.sequence_cons_of_some (year _), Scan.sequence_cons_of_some (Scan.char_cons '-' _),
    Scan.sequence_cons_of_some (field months _), Scan.sequence_cons_of_some (Scan.char_cons '-' _),
    Scan.sequence_cons_of_some (field days _),
    Scan.sequence_cons_of_some (Scan.optional_of_some time)]
  simp

end Dates

end RecordSearch.Grammar
