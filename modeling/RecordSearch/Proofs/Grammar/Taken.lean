import Mathlib.Data.List.TakeWhile
import RecordSearch.Proofs.Grammar.Lexeme

/-!
# What the words of the query language take

A word is taken from the head of a text, and only a quoted text holds quotes, in pairs.  A word that
is not a quoted text ends in front of a closing bracket, a comma or a blank as it does at the end of
a text.
-/

namespace RecordSearch.Grammar

open RecordSearch.Text

section Numerals

def isSign (c : Char) : Bool :=
  c == '-' || c == '.' || c == '+' || c == ':' || c == 'T' || c == 'Z'

/-- A property that scans have from the scans that they are made of, as numbers and dates are made
of signs and digits. -/
structure HereditaryScan (P : Scan (List Char) → Prop) : Prop where
  sign : ∀ c, isSign c = true → P (.char c)
  exactly : ∀ n, P (.exactly isAsciiDigit n)
  digits : P (.some isAsciiDigit)
  optional : ∀ scan, P scan → P (.optional scan)
  either : ∀ scan other, P scan → P other → P (.either scan other)
  sequence : ∀ scans : List (Scan (List Char)), (∀ scan ∈ scans, P scan) → P (.sequence scans)
  closed : ∀ scan, P scan → P (.closed isNameChar scan)

variable {P : Scan (List Char) → Prop}

theorem HereditaryScan.fraction (passes : HereditaryScan P) :
    P (.sequence [.char '.', .some isAsciiDigit]) := by
  apply passes.sequence
  simp only [List.forall_mem_cons]
  exact ⟨passes.sign _ rfl, passes.digits, List.forall_mem_nil _⟩

theorem HereditaryScan.numberText (passes : HereditaryScan P) : P numberText := by
  apply passes.closed
  apply passes.sequence
  simp only [List.forall_mem_cons]
  exact ⟨passes.optional _ (passes.sign _ rfl), passes.digits,
    passes.optional _ passes.fraction, List.forall_mem_nil _⟩

theorem HereditaryScan.zoneText (passes : HereditaryScan P) : P zoneText := by
  apply passes.either _ _ (passes.sign _ rfl)
  apply passes.sequence
  simp only [List.forall_mem_cons]
  exact ⟨passes.either _ _ (passes.sign _ rfl) (passes.sign _ rfl), passes.exactly 2,
    passes.optional _ (passes.sign _ rfl), passes.exactly 2, List.forall_mem_nil _⟩

theorem HereditaryScan.timeText (passes : HereditaryScan P) : P timeText := by
  have second : P secondText := by
    apply passes.sequence
    simp only [List.forall_mem_cons]
    exact ⟨passes.sign _ rfl, passes.exactly 2, passes.optional _ passes.fraction,
      List.forall_mem_nil _⟩
  apply passes.sequence
  simp only [List.forall_mem_cons]
  exact ⟨passes.sign _ rfl, passes.exactly 2, passes.sign _ rfl, passes.exactly 2,
    passes.optional _ second, passes.optional _ passes.zoneText, List.forall_mem_nil _⟩

theorem HereditaryScan.dateText (passes : HereditaryScan P) : P dateText := by
  apply passes.closed
  apply passes.sequence
  simp only [List.forall_mem_cons]
  exact ⟨passes.exactly 4, passes.sign _ rfl, passes.exactly 2, passes.sign _ rfl,
    passes.exactly 2, passes.optional _ passes.timeText, List.forall_mem_nil _⟩

end Numerals

section Takes

/-- What a scan takes are characters of a class, and they stand at the head of the text. -/
def Takes (p : Char → Prop) (scan : Scan (List Char)) : Prop :=
  ∀ s taken rest, scan s = some (taken, rest) → s = taken ++ rest ∧ ∀ c ∈ taken, p c

variable {p : Char → Prop} {q : Char → Bool} {scan : Scan (List Char)}

theorem Takes.char {c : Char} (inClass : p c) : Takes p (.char c) := by
  intro s taken rest read
  obtain ⟨rfl, rfl⟩ := Scan.char_eq_some read
  exact ⟨rfl, List.forall_mem_singleton.mpr inClass⟩

theorem Takes.one (included : ∀ c, q c = true → p c) : Takes p (.one q) := by
  intro s taken rest read
  cases s with
  | nil => cases read
  | cons d s =>
      cases inClass : q d with
      | true =>
          simp only [Scan.one, inClass, if_true, Option.some.injEq, Prod.mk.injEq] at read
          obtain ⟨rfl, rfl⟩ := read
          exact ⟨rfl, List.forall_mem_singleton.mpr (included d inClass)⟩
      | false => simp only [Scan.one, inClass, Bool.false_eq_true, if_false, reduceCtorEq] at read

theorem Takes.exactly (included : ∀ c, q c = true → p c) (n : Nat) : Takes p (.exactly q n) := by
  intro s taken rest read
  obtain ⟨text, run⟩ := Scan.exactly_eq_some read
  exact ⟨text, fun c member => included c (run c member)⟩

theorem Takes.some (included : ∀ c, q c = true → p c) : Takes p (.some q) := by
  intro s taken rest read
  obtain ⟨text, -, run⟩ := Scan.some_eq_some read
  exact ⟨text, fun c member => included c (run c member)⟩

theorem Takes.optional (takes : Takes p scan) : Takes p (.optional scan) := by
  intro s taken rest read
  rcases Scan.optional_eq_some read with here | ⟨rfl, rfl⟩
  · exact takes _ _ _ here
  · exact ⟨rfl, List.forall_mem_nil _⟩

theorem Takes.either {other : Scan (List Char)} (first : Takes p scan) (second : Takes p other) :
    Takes p (.either scan other) := by
  intro s taken rest read
  rw [Scan.either, Option.or_eq_some_iff] at read
  rcases read with here | ⟨-, there⟩
  · exact first _ _ _ here
  · exact second _ _ _ there

theorem Takes.sequence {scans : List (Scan (List Char))} (each : ∀ scan ∈ scans, Takes p scan) :
    Takes p (.sequence scans) := by
  induction scans with
  | nil =>
      intro s taken rest read
      cases read
      exact ⟨rfl, fun _ member => absurd member List.not_mem_nil⟩
  | cons scan scans inductionHypothesis =>
      intro s taken rest read
      obtain ⟨begun, mid, more, first, later, rfl⟩ := Scan.sequence_cons_eq_some read
      obtain ⟨rfl, run⟩ := each scan List.mem_cons_self _ _ _ first
      obtain ⟨rfl, run'⟩ := inductionHypothesis
        (fun other member => each other (List.mem_cons_of_mem _ member)) _ _ _ later
      refine ⟨(List.append_assoc _ _ _).symm, fun c member => ?_⟩
      rcases List.mem_append.mp member with here | there
      · exact run c here
      · exact run' c there

theorem Takes.closed (takes : Takes p scan) (q : Char → Bool) : Takes p (.closed q scan) :=
  fun s taken rest read => takes s taken rest (Scan.closed_eq_some read)

theorem takes_plainName : Takes (fun c => isNameChar c = true) plainName := by
  intro s taken rest read
  unfold plainName at read
  split at read
  · cases read
  · refine Takes.sequence ?_ s taken rest read
    simp only [List.forall_mem_cons]
    exact ⟨.one fun c => isNameChar_of_isNameStart, .optional (.some fun c => id),
      List.forall_mem_nil _⟩

theorem takes_bareName : Takes (fun c => isNameChar c = true) bareName := by
  intro s taken rest read
  unfold bareName at read
  split at read
  · cases read
  · exact takes_plainName s taken rest read

theorem quote_of_isNameChar {c : Char} (inClass : isNameChar c = true) : c ≠ '\'' :=
  ne_of_class inClass (by decide)

theorem hereditary_takes : HereditaryScan (Takes (· ≠ '\'')) where
  sign _ sign := .char (ne_of_class sign (by decide))
  exactly n := .exactly (fun _ digit => ne_of_class digit (by decide)) n
  digits := .some fun _ digit => ne_of_class digit (by decide)
  optional _ takes := takes.optional
  either _ _ first second := first.either second
  sequence _ each := .sequence each
  closed _ takes := takes.closed _

theorem takes_numberText : Takes (· ≠ '\'') numberText := hereditary_takes.numberText

theorem takes_dateText : Takes (· ≠ '\'') dateText := hereditary_takes.dateText

theorem textBody_eq_some {done s rest : List Char} {text : List Char}
    (read : textBody done s = some (text, rest)) :
    ∃ taken, s = taken ++ rest ∧ ¬ 2 ∣ taken.count '\'' := by
  fun_induction textBody done s with
  | case1 done s inductionHypothesis =>
      obtain ⟨taken, rfl, odd⟩ := inductionHypothesis read
      refine ⟨'\'' :: '\'' :: taken, rfl, ?_⟩
      simp only [List.count_cons_self]
      omega
  | case2 done s single =>
      cases read
      exact ⟨['\''], rfl, by decide⟩
  | case3 done c s double other inductionHypothesis =>
      obtain ⟨taken, rfl, odd⟩ := inductionHypothesis read
      refine ⟨c :: taken, rfl, ?_⟩
      rwa [List.count_cons_of_ne other]
  | case4 done => cases read

theorem quotedText_eq_some {s rest text : List Char} (read : quotedText s = some (text, rest)) :
    ∃ taken, s = taken ++ rest ∧ 2 ∣ taken.count '\'' := by
  unfold quotedText at read
  split at read
  · next s =>
      obtain ⟨taken, rfl, odd⟩ := textBody_eq_some read
      refine ⟨'\'' :: taken, rfl, ?_⟩
      rw [List.count_cons_self]
      omega
  · cases read

end Takes

section Shut

/-- A text that no word can go on with: it is empty or begins with a closing bracket. -/
def Shut (t : List Char) : Prop := ∀ c ∈ t.head?, c = ')' ∨ c = ']'

variable {t : List Char} {q : Char → Bool} {scan : Scan (List Char)}

theorem Shut.stops (shut : Shut t) (outside : q ')' = false ∧ q ']' = false) : Stops q t := by
  intro c head
  rcases shut c head with rfl | rfl
  · exact outside.1
  · exact outside.2

theorem Shut.dropWhile (shut : Shut t) (outside : q ')' = false ∧ q ']' = false)
    (s : List Char) : (s ++ t).dropWhile q = s.dropWhile q ++ t :=
  (shut.stops outside).dropWhile_append s

def separators : List Char := [')', ']', ',', ' ', '\t', '\r', '\n']

/-- A text that begins with no part of a word: it is empty or begins with a separator. -/
def Parted (t : List Char) : Prop := ∀ c ∈ t.head?, c ∈ separators

theorem parted_cons {c : Char} (separates : c ∈ separators) : Parted (c :: t) := by
  rintro d ⟨⟩
  exact separates

theorem Shut.parted (shut : Shut t) : Parted t := by
  intro c head
  rcases shut c head with rfl | rfl
  · exact List.mem_cons_self
  · exact List.mem_cons_of_mem _ List.mem_cons_self

theorem Parted.stops (parted : Parted t) (outside : separators.any q = false) : Stops q t := by
  intro c head
  cases inClass : q c with
  | false => rfl
  | true =>
      have found := List.any_eq_true.mpr ⟨c, parted c head, inClass⟩
      rw [outside] at found
      cases found

theorem Parted.headWord (parted : Parted t) (s : List Char) :
    headWord (s ++ t) = headWord s := by
  rw [Grammar.headWord, (parted.stops rfl).takeWhile_append, Grammar.headWord]

theorem Shut.headWord (shut : Shut t) (s : List Char) : headWord (s ++ t) = headWord s :=
  shut.parted.headWord s

/-- A scan takes from a text what it takes from the text with `t` behind it. -/
def Local (t : List Char) (scan : Scan (List Char)) : Prop :=
  ∀ s, scan (s ++ t) = (scan s).map fun r => (r.1, r.2 ++ t)

theorem Local.char {c : Char} (other : ∀ d ∈ t.head?, d ≠ c) : Local t (.char c) := by
  intro s
  cases s with
  | nil => exact Scan.char_eq_none other
  | cons d s =>
      by_cases same : d = c
      · subst same
        simp only [List.cons_append, Scan.char_cons, Option.map_some]
      · simp only [List.cons_append, Scan.char, same, if_false, Option.map_none]

theorem Local.one (stops : Stops q t) : Local t (.one q) := by
  intro s
  cases s with
  | nil =>
      cases t with
      | nil => rfl
      | cons d t => simp [Scan.one, stops_cons.mp stops]
  | cons d s => cases inClass : q d <;> simp [Scan.one, inClass]

theorem Local.exactly (stops : Stops q t) (n : Nat) : Local t (.exactly q n) := by
  induction n with
  | zero => exact fun s => rfl
  | succ n inductionHypothesis =>
      intro s
      cases s with
      | nil =>
          cases t with
          | nil => rfl
          | cons d t => simp [Scan.exactly, stops_cons.mp stops]
      | cons d s =>
          cases inClass : q d with
          | false => simp [Scan.exactly, inClass]
          | true =>
              simp only [List.cons_append, Scan.exactly, inClass, if_true, inductionHypothesis s,
                Option.map_map]
              rfl

theorem Local.some (stops : Stops q t) : Local t (.some q) := by
  intro s
  unfold Scan.some
  rw [stops.takeWhile_append, stops.dropWhile_append]
  cases s.takeWhile q <;> rfl

theorem Local.optional (stays : Local t scan) : Local t (.optional scan) := by
  intro s
  unfold Scan.optional
  rw [stays s]
  cases scan s <;> rfl

theorem Local.either {other : Scan (List Char)} (first : Local t scan) (second : Local t other) :
    Local t (.either scan other) := by
  intro s
  unfold Scan.either
  rw [first s, second s]
  cases scan s <;> rfl

theorem Local.sequence {scans : List (Scan (List Char))} (each : ∀ scan ∈ scans, Local t scan) :
    Local t (.sequence scans) := by
  induction scans with
  | nil => exact fun s => rfl
  | cons scan scans inductionHypothesis =>
      intro s
      have here := each scan List.mem_cons_self s
      have later := inductionHypothesis fun other member =>
        each other (List.mem_cons_of_mem _ member)
      cases first : scan s with
      | none =>
          rw [first] at here
          rw [Scan.sequence_cons_of_none here, Scan.sequence_cons_of_none first]
          rfl
      | some r =>
          rw [first] at here
          rw [Scan.sequence_cons_of_some here, Scan.sequence_cons_of_some first, later r.2,
            Option.map_map, Option.map_map]
          rfl

theorem Local.closed (stays : Local t scan) (stops : Stops q t) : Local t (.closed q scan) := by
  intro s
  unfold Scan.closed
  rw [stays s]
  cases scan s with
  | none => rfl
  | some r =>
      obtain ⟨taken, rest⟩ := r
      cases rest with
      | nil =>
          cases t with
          | nil => rfl
          | cons c t => simp [stops_cons.mp stops]
      | cons c rest => cases inClass : q c <;> simp [inClass]

theorem Local.caseless (parted : Parted t) {word : List Char}
    (letters : ∀ c ∈ word, isAsciiLower c = true) : Local t (.caseless word) := by
  induction word with
  | nil => exact fun s => rfl
  | cons w word inductionHypothesis =>
      have later := inductionHypothesis fun c member => letters c (List.mem_cons_of_mem _ member)
      have letter := letters w List.mem_cons_self
      intro s
      cases s with
      | nil =>
          cases t with
          | nil => rfl
          | cons d t =>
              have other : asciiLower d ≠ w := by
                rintro rfl
                have stops := parted.stops (q := fun c => isAsciiLower (asciiLower c)) rfl
                exact absurd ((stops d rfl).symm.trans letter) Bool.false_ne_true
              simp [Scan.caseless, other]
      | cons d s =>
          by_cases same : asciiLower d = w
          · simp only [List.cons_append, Scan.caseless, same, if_true, later s, Option.map_map]
            rfl
          · simp only [List.cons_append, Scan.caseless, same, if_false, Option.map_none]

theorem Local.keyword (parted : Parted t) {word : String} (letters : IsWord word) :
    Local t (keyword word) :=
  .closed (.caseless parted letters) (parted.stops rfl)

theorem beginsReserved_append (parted : Parted t) (s : List Char) :
    beginsReserved (s ++ t) = beginsReserved s := by
  have same (words : List String) (letters : ∀ word ∈ words, IsWord word) :
      (words.findSome? fun word => Scan.caseless word.toList (s ++ t)) =
        (words.findSome? fun word => Scan.caseless word.toList s).map fun r => (r.1, r.2 ++ t) := by
    induction words with
    | nil => rfl
    | cons word words inductionHypothesis =>
        obtain ⟨first, others⟩ := List.forall_mem_cons.mp letters
        rw [List.findSome?_cons, List.findSome?_cons, Local.caseless parted first s]
        cases Scan.caseless word.toList s with
        | none => exact inductionHypothesis others
        | some r => rfl
  unfold beginsReserved
  rw [same _ isWord_of_mem_reservedWords]
  cases reservedWords.findSome? fun word => Scan.caseless word.toList s with
  | none => rfl
  | some r =>
      obtain ⟨taken, rest⟩ := r
      cases rest with
      | nil =>
          cases t with
          | nil => rfl
          | cons c t =>
              have ended := parted.stops (q := isNameChar) rfl c rfl
              simp [ended]
      | cons c rest => rfl

theorem local_plainName (parted : Parted t) : Local t plainName := by
  intro s
  have name : Local t (.sequence [.one isNameStart, .optional (.some isNameChar)]) := by
    refine .sequence ?_
    simp only [List.forall_mem_cons]
    exact ⟨.one (parted.stops rfl), .optional (.some (parted.stops rfl)), List.forall_mem_nil _⟩
  unfold plainName
  rw [beginsReserved_append parted s, name s]
  cases beginsReserved s <;> rfl

theorem local_bareName (parted : Parted t) : Local t bareName := by
  intro s
  unfold bareName
  rw [Local.keyword parted (by decide) s, local_plainName parted s, Option.isSome_map]
  cases (keyword "id" s).isSome <;> rfl

theorem hereditary_local (parted : Parted t) : HereditaryScan (Local t) where
  sign _ sign := .char ((parted.stops rfl).head_ne sign)
  exactly n := .exactly (parted.stops rfl) n
  digits := .some (parted.stops rfl)
  optional _ stays := stays.optional
  either _ _ first second := first.either second
  sequence _ each := .sequence each
  closed _ stays := stays.closed (parted.stops rfl)

theorem local_numberText (parted : Parted t) : Local t numberText :=
  (hereditary_local parted).numberText

theorem local_dateText (parted : Parted t) : Local t dateText := (hereditary_local parted).dateText

/-- A quoted text that ends is not touched by what stands behind it, unless that is a quote. -/
theorem textBody_keeps (stops : Stops (· == '\'') t) {done s rest text : List Char}
    (read : textBody done s = .some (text, rest)) :
    textBody done (s ++ t) = .some (text, rest ++ t) := by
  fun_induction textBody done s with
  | case1 done s inductionHypothesis =>
      rw [← inductionHypothesis read]
      rfl
  | case2 done s single =>
      cases read
      refine textBody_quote done ?_
      cases rest with
      | nil => exact stops
      | cons c rest =>
          refine stops_cons.mpr (beq_eq_false_iff_ne.mpr ?_)
          rintro rfl
          exact single rest rfl
  | case3 done c s double other inductionHypothesis =>
      rw [List.cons_append, textBody_cons other]
      exact inductionHypothesis read
  | case4 done => cases read

theorem quotedText_keeps (stops : Stops (· == '\'') t) {s rest text : List Char}
    (read : quotedText s = .some (text, rest)) : quotedText (s ++ t) = .some (text, rest ++ t) := by
  unfold quotedText at read
  split at read
  · exact textBody_keeps stops read
  · cases read

end Shut

end RecordSearch.Grammar
