import RecordSearch.Proofs.Attempt
import RecordSearch.Proofs.Grammar.Rule
import RecordSearch.Proofs.Grammar.Taken

/-!
# Words and values that are read as they were written

Keywords, literals, periods and lists of values are read whole in front of a character that cannot
go on with them, and none of them begins with a blank.
-/

namespace RecordSearch

open RecordSearch.Grammar RecordSearch.Text
open RecordSearch.Time (Instant)

/-- A literal that the query language has a form for. -/
def Literal.Writable : Literal → Prop
  | text _ => True
  | number digits => IsNumeral digits.toList
  | date at' => at'.IsPlain

namespace Grammar

variable {s rest : List Char}

section Words

variable {taken w : String}

/-- A keyword in any letter case. -/
def Spells (taken w : String) : Prop := IsWord w ∧ taken.toList.map asciiLower = w.toList

instance (taken w : String) : Decidable (Spells taken w) :=
  inferInstanceAs (Decidable (IsWord w ∧ taken.toList.map asciiLower = w.toList))

theorem Spells.run (spells : Spells taken w) : ∀ c ∈ taken.toList, isNameChar c = true :=
  fun _ member =>
    isNameChar_of_asciiLower (spells.1 _ (spells.2 ▸ List.mem_map_of_mem member))

theorem Spells.headWord (spells : Spells taken w) (stops : Stops isNameChar rest) :
    headWord (taken.toList ++ rest) = w.toList :=
  (headWord_append spells.run stops).trans spells.2

theorem Spells.read (spells : Spells taken w) (stops : Stops isNameChar rest) :
    (word w).read (taken.toList ++ rest) = some ((), rest) := by
  have found : keyword w (taken.toList ++ rest) = _ :=
    keyword_of_headWord (spells.headWord stops)
  rw [read_word, found, dropWhile_append_stops spells.run stops]
  rfl

theorem Spells.read_blank (spells : Spells taken w) (s : List Char) :
    (word w).read (taken.toList ++ ' ' :: s) = some ((), ' ' :: s) :=
  spells.read (stops_cons.mpr (by decide))

theorem read_word_eq_none (letters : IsWord w) (other : headWord s ≠ w.toList) :
    (word w).read s = none := by
  rw [read_word, keyword_eq_none letters other]
  rfl

end Words

section Values

variable {at' start stop : Instant} {value : Literal}

theorem head_render (plain : at'.IsPlain) (rest : List Char) :
    ∀ c ∈ (at'.render ++ rest).head?, isAsciiDigit c = true := by
  have years := (Time.Instant.fields_bounds plain).1
  have digits : IsDigits (Time.padded 4 at'.fields.year.toNat) := by
    refine ⟨List.ne_nil_of_length_pos ?_, fun c => Time.isAsciiDigit_of_mem_padded⟩
    rw [Time.length_padded (by decide) years]
    decide
  rw [Time.Instant.render_of_isPlain plain, List.append_assoc]
  exact digits.head _

theorem isSpace_of_class {p : Char → Bool} {c : Char} (inClass : p c = true)
    (blank : p ' ' = false) (tab : p '\t' = false) (carriage : p '\r' = false)
    (line : p '\n' = false) : isSpace c = false := by
  simp [isSpace, ne_of_class inClass blank, ne_of_class inClass tab, ne_of_class inClass carriage,
    ne_of_class inClass line]

theorem isSpace_of_isAsciiDigit {c : Char} (digit : isAsciiDigit c = true) : isSpace c = false :=
  isSpace_of_class digit (by decide) (by decide) (by decide) (by decide)

theorem read_date (plain : at'.IsPlain) (stops : Stops goesOn rest) :
    date.read (at'.render ++ rest) = some (.ok at', rest) := by
  have moment : instantOf at'.render = .ok at' := by
    have read := Time.Instant.instant?_text plain
    rw [Time.Instant.text] at read
    simp only [instantOf, read]
  simp [date, dateText_render plain stops, moment]

theorem read_quoted (text : String) (stops : Stops goesOn rest) :
    quoted.read (Quoted.literal text.toList ++ rest) = some (text, rest) := by
  simp [quoted, quotedText_literal text.toList (stops_quote stops)]

theorem stops_isSpace_render (plain : at'.IsPlain) (rest : List Char) :
    Stops isSpace (at'.render ++ rest) :=
  fun c head => isSpace_of_isAsciiDigit (head_render plain rest c head)

theorem stops_isSpace_literal (writable : value.Writable) (rest : List Char) :
    Stops isSpace (value.render ++ rest) := by
  cases value with
  | text text => exact stops_cons.mpr (by decide)
  | number digits =>
      intro c head
      rcases writable.head rest c head with rfl | digit
      · rfl
      · exact isSpace_of_isAsciiDigit digit
  | date at' => exact stops_isSpace_render writable rest

theorem read_value (writable : value.Writable) (stops : Stops goesOn rest) :
    Grammar.value.read (value.render ++ rest) = some (.ok value, rest) := by
  cases value with
  | text text => simp [Grammar.value, Literal.render, read_quoted text stops]
  | number digits =>
      have noText : quotedText (digits.toList ++ rest) = none := by
        refine quotedText_eq_none fun c head => ?_
        rcases writable.head rest c head with rfl | digit
        · decide
        · exact ne_of_class digit (by decide)
      have noDate := dateText_numeral writable stops
      have number := numberText_append writable stops
      simp [Grammar.value, Literal.render, quoted, date, Grammar.number, noText, noDate, number]
  | date at' =>
      have noText : quotedText (at'.render ++ rest) = none :=
        quotedText_eq_none fun c head =>
          ne_of_class (head_render writable rest c head) (by decide)
      simp [Grammar.value, Literal.render, quoted, noText, read_date writable stops]

/-- A period is read as it is written, if it does not end before it starts. -/
theorem read_period (first : start.IsPlain) (last : stop.IsPlain) (ordered : stop.lt start = false)
    (stops : Stops goesOn rest) :
    period.read (start.render ++ '/' :: (stop.render ++ rest)) =
      some (.ok (start, stop), rest) := by
  have slash : Stops goesOn ('/' :: (stop.render ++ rest)) := stops_cons.mpr (by decide)
  have noBlank : Stops isSpace ('/' :: (stop.render ++ rest)) := stops_cons.mpr (by decide)
  have digit := stops_isSpace_render last rest
  simp only [period, Rule.read_named, Rule.read_bind, read_date first slash, Option.bind_some,
    read_next_of_stops _ noBlank, read_mark, Scan.char_cons, Option.map_some,
    read_next_of_stops _ digit, read_date last stops, Rule.read_pure]
  have built : (do
      let start ← (Except.ok start : Built Instant)
      let stop ← (Except.ok stop : Built Instant)
      if stop.lt start then .error (ValueFault.reversedPeriod start stop) else .ok (start, stop)) =
        (.ok (start, stop) : Built (Instant × Instant)) := if_neg (by simp [ordered])
  rw [built]

end Values

section Lists

theorem joined_cons (separator s : List Char) (others : List (List Char)) :
    joined separator (s :: others) = s ++ others.flatMap (separator ++ ·) := by
  induction others generalizing s with
  | nil => simp [joined]
  | cons t others inductionHypothesis => simp [joined, inductionHypothesis]

theorem mapM_map_ok {α : Type} (values : List α) :
    ((values.map .ok).mapM id : Built (List α)) = .ok values :=
  Attempt.mapM_map_eq_ok fun _ _ => rfl

theorem read_listOf {α β : Type} {item : Rule α} {render : β → List Char} {result : β → α}
    {items : List β} (filled : items ≠ [])
    (reads : ∀ b ∈ items, ∀ rest, Parted rest →
      item.read (render b ++ rest) = some (result b, rest))
    (starts : ∀ b ∈ items, ∀ rest, Stops isSpace (render b ++ rest)) (rest : List Char) :
    (listOf item).read ('(' :: (joined ", ".toList (items.map render) ++ ')' :: rest)) =
      some (items.map result, rest) := by
  obtain ⟨first, others, rfl⟩ := List.exists_cons_of_ne_nil filled
  have closed : Stops isSpace (')' :: rest) := stops_cons.mpr (by decide)
  have ended : (next (do mark ','; next item)).read (')' :: rest) = none := by
    rw [read_next_of_stops _ closed, Rule.read_bind, read_mark, Scan.char_eq_none (by simp),
      Option.map_none, Option.bind_none]
  have joins (other : β) (member : other ∈ others) (tail : List Char) :
      (next (do mark ','; next item)).read (", ".toList ++ (render other ++ tail)) =
        item.read (render other ++ tail) := by
    have noBlank := starts other (List.mem_cons_of_mem first member) tail
    have comma : Stops isSpace (',' :: ' ' :: (render other ++ tail)) := stops_cons.mpr (by decide)
    show (next (do mark ','; next item)).read (',' :: ' ' :: (render other ++ tail)) = _
    rw [read_next_of_stops _ comma, Rule.read_bind, read_mark, Scan.char_cons, Option.map_some,
      Option.bind_some, read_next_blank _ noBlank]
  have read := read_separated Parted render result
    (show ", ".toList ≠ [] by decide) (fun tail => parted_cons (by decide))
    (parted_cons (by decide)) ended joins reads
  have text : joined ", ".toList ((first :: others).map render) ++ ')' :: rest =
      render first ++ (others.flatMap (fun v => ", ".toList ++ render v) ++ ')' :: rest) := by
    rw [List.map_cons, joined_cons, List.append_assoc, List.flatMap_map]
  have noBlank := starts first List.mem_cons_self
    (others.flatMap (fun v => ", ".toList ++ render v) ++ ')' :: rest)
  rw [text]
  simp only [listOf, Rule.read_bind, read_mark, Scan.char_cons, Option.map_some, Option.bind_some,
    read_next_of_stops _ noBlank, read, read_next_of_stops _ closed, Rule.read_pure]

theorem read_listOf_value {values : List Literal} (filled : values ≠ [])
    (writable : ∀ value ∈ values, value.Writable) (rest : List Char) :
    (listOf value).read
      ('(' :: (joined ", ".toList (values.map Literal.render) ++ ')' :: rest)) =
        some (values.map .ok, rest) :=
  read_listOf filled
    (fun v member _ parted => read_value (writable v member) (parted.stops rfl))
    (fun v member rest => stops_isSpace_literal (writable v member) rest) rest

theorem read_listOf_quoted {texts : List String} (filled : texts ≠ []) (rest : List Char) :
    (listOf quoted).read
      ('(' :: (joined ", ".toList (texts.map fun x => Quoted.literal x.toList) ++ ')' :: rest)) =
        some (texts, rest) := by
  have reads : ∀ x ∈ texts, ∀ rest, Parted rest →
      quoted.read (Quoted.literal x.toList ++ rest) = some (x, rest) :=
    fun x _ _ parted => read_quoted x (parted.stops rfl)
  have read := read_listOf filled reads (fun _ _ _ => stops_cons.mpr (by decide)) rest
  rwa [List.map_id'] at read

end Lists

end Grammar

end RecordSearch
