import RecordSearch.Extraction
import RecordSearch.Proofs.Attempt
import RecordSearch.Proofs.Text.Order
import RecordSearch.Proofs.Text.Trim
import RecordSearch.Proofs.Text.Utf8

/-!
# What is kept of a document

A document of a textual media type is decoded, freed of the byte order mark at its head and cut to
its bounds.  The bounds count characters, so that what is kept is a text, the longest one within
them that the document begins with, and nothing is lost by extracting it again.
-/

namespace RecordSearch

open RecordSearch.Text

namespace MediaType

/-- `e` is a media type without its parameters and the blanks around it, in lower case. -/
def HasEssence (mediaType : String) (e : List Char) : Prop :=
  ∃ head parameters core, mediaType.toList = head ++ parameters ∧ (∀ c ∈ head, c ≠ ';') ∧
    (∀ c ∈ parameters.head?, c = ';') ∧ Trims isBlank head core ∧ e = core.map asciiLower

/-- The essences of textual media types. -/
def NamesText (e : List Char) : Prop :=
  "text/".toList <+: e ∨ e = "application/json".toList ∨ e = "application/xml".toList

def IsText (m : String) : Prop := ∃ e, HasEssence m e ∧ NamesText e

/-- A media type is that of a text, if there is one. -/
def Accepted (mediaType : Option String) : Prop := ∀ m ∈ mediaType, IsText m

variable {m : String} {e : List Char} {mediaType : Option String}

theorem hasEssence_iff : HasEssence m e ↔ (essence m).toList = e := by
  rw [essence, asciiLowerText, trim, String.toList_ofList, String.toList_ofList,
    String.toList_ofList]
  constructor
  · rintro ⟨head, parameters, core, text, plain, behind, trims, rfl⟩
    have run : ∀ c ∈ head, (c != ';') = true := fun c member => bne_iff_ne.mpr (plain c member)
    have stops : Stops (· != ';') parameters := fun c head => by simp [behind c head]
    rw [text, takeWhile_append_stops run stops, trims_iff.mp trims]
  · rintro rfl
    have plain : ∀ c ∈ m.toList.takeWhile (· != ';'), c ≠ ';' := fun c member =>
      bne_iff_ne.mp (List.mem_takeWhile_imp (p := (· != ';')) member)
    have behind : Stops (· != ';') (m.toList.dropWhile (· != ';')) := stops_dropWhile _
    exact ⟨_, _, _, List.takeWhile_append_dropWhile.symm, plain,
      fun c head => by simpa using behind c head, trims_iff.mpr rfl, rfl⟩

theorem isTextual_iff : isTextual mediaType = true ↔ Accepted mediaType := by
  cases mediaType with
  | none => simp [isTextual, Accepted]
  | some m =>
      simp only [isTextual, Accepted, IsText, hasEssence_iff, Option.mem_some_iff, forall_eq',
        exists_eq_left', NamesText, Bool.or_eq_true, List.isPrefixOf_iff_prefix, beq_iff_eq,
        String.toList_inj, or_assoc]

end MediaType

namespace Extraction

/-- `t` is what follows the byte order mark at the head of a text, or the text if there is none. -/
def Unmarked (s t : List Char) : Prop :=
  s = byteOrderMark :: t ∨ s.head? ≠ some byteOrderMark ∧ t = s

theorem unmarked_iff {s t : List Char} : Unmarked s t ↔ withoutMark s = t := by
  cases s with
  | nil => simp [Unmarked, withoutMark, eq_comm]
  | cons c s =>
      by_cases mark : c = byteOrderMark
      · simp [Unmarked, withoutMark, mark]
      · simp [Unmarked, withoutMark, mark, eq_comm]

variable {config : ExtractorConfig} {mediaType : Option String} {bytes : List UInt8}
variable {s t : List Char} {text : String}

inductive Extracts (config : ExtractorConfig) (mediaType : Option String) (bytes : List UInt8) :
    Except ExtractionFault String → Prop where
  | unsupported {m : String} (given : mediaType = some m) (other : ¬ MediaType.IsText m) :
      Extracts config mediaType bytes (.error (.unsupportedType m))
  | encoding {fault : Utf8.Fault} (accepted : MediaType.Accepted mediaType)
      (none : ¬ ∃ text, Utf8.bytes text = bytes) :
      Extracts config mediaType bytes (.error (.encoding fault))
  | bounded (text : String) {t : List Char} (accepted : MediaType.Accepted mediaType)
      (spelt : Utf8.bytes text = bytes) (unmarked : Unmarked text.toList t) :
      Extracts config mediaType bytes (String.ofList <$> bound config t)

theorem extracts_extract (config : ExtractorConfig) (mediaType : Option String)
    (bytes : List UInt8) :
    Extracts config mediaType bytes (extract config mediaType (.ok bytes)) := by
  by_cases accepted : MediaType.Accepted mediaType
  · rw [extract.eq_def, if_pos (MediaType.isTextual_iff.mpr accepted)]
    cases decoded : Utf8.decode bytes with
    | error fault =>
        simp only [decoded]
        refine .encoding accepted ?_
        rintro ⟨text, spelt⟩
        cases decoded.symm.trans (Utf8.decode_eq_ok_iff.mpr spelt)
    | ok s =>
        simp only [decoded]
        refine .bounded (String.ofList s) accepted ?_ ?_
        · rw [Utf8.bytes, String.toList_ofList, Utf8.decode_eq_ok_iff.mp decoded]
        · rw [String.toList_ofList, unmarked_iff]
  · rw [extract.eq_def, if_neg (MediaType.isTextual_iff.not.mpr accepted)]
    cases mediaType with
    | none => simp [MediaType.Accepted] at accepted
    | some m => exact .unsupported rfl (by simpa [MediaType.Accepted] using accepted)

theorem bound_of_le (fits : ∀ limit ∈ config.maxLength, t.length ≤ limit) :
    bound config t = .ok t := by
  cases limited : config.maxLength with
  | none => simp only [bound, limited]
  | some limit => simp only [bound, limited, if_pos (fits limit limited)]

theorem bound_of_lt {limit : Nat} (limited : limit ∈ config.maxLength) (long : limit < t.length) :
    bound config t =
      if config.overflow = .reject then .error (.tooLong limit) else .ok (t.take limit) := by
  simp only [bound, Option.mem_def.mp limited, if_neg (Nat.not_le.mpr long)]
  cases config.overflow <;> rfl

theorem bound_cases (config : ExtractorConfig) (t : List Char) :
    (∃ kept, bound config t = .ok kept ∧ kept <+: t ∧ bound config kept = .ok kept) ∨
      ∃ limit, bound config t = .error (.tooLong limit) := by
  by_cases fits : ∀ limit ∈ config.maxLength, t.length ≤ limit
  · exact .inl ⟨t, bound_of_le fits, List.prefix_rfl, bound_of_le fits⟩
  · push Not at fits
    obtain ⟨limit, limited, long⟩ := fits
    rw [bound_of_lt limited long]
    split_ifs with rejects
    · exact .inr ⟨limit, rfl⟩
    · refine .inl ⟨_, rfl, List.take_prefix limit t, bound_of_le fun limit' same => ?_⟩
      cases Option.mem_unique limited same
      exact List.length_take_le limit t

variable {result : Except ExtractionFault String}

theorem Extracts.eq_bound (extracts : Extracts config mediaType bytes result)
    (accepted : MediaType.Accepted mediaType) (spelt : Utf8.bytes text = bytes)
    (unmarked : Unmarked text.toList t) : result = String.ofList <$> bound config t := by
  cases extracts with
  | unsupported given other => exact absurd (accepted _ given) other
  | encoding _ none => exact absurd ⟨text, spelt⟩ none
  | bounded text' _ spelt' unmarked' =>
      cases Utf8.bytes_injective (spelt.trans spelt'.symm)
      rw [← unmarked_iff.mp unmarked, ← unmarked_iff.mp unmarked']

theorem tooLong_of_map_bound {e : ExtractionFault}
    (failed : String.ofList <$> bound config t = .error e) : ∃ limit, e = .tooLong limit := by
  replace failed := Attempt.map_eq_error failed
  rcases bound_cases config t with ⟨_, bounded, -⟩ | ⟨limit, long⟩
  · cases bounded.symm.trans failed
  · cases long.symm.trans failed
    exact ⟨limit, rfl⟩

theorem isValidUTF8_iff :
    ByteArray.IsValidUTF8 ⟨bytes.toArray⟩ ↔ ∃ text, Utf8.bytes text = bytes := by
  constructor
  · intro valid
    exact ⟨⟨_, valid⟩, Utf8.bytes_eq _⟩
  · rintro ⟨text, rfl⟩
    rw [Utf8.bytes_eq]
    exact text.isValidUTF8

structure Keeps (config : ExtractorConfig) (mediaType : Option String) (bytes : List UInt8)
    (result : Except ExtractionFault String) : Prop where
  unsupported : ∀ m, result = .error (.unsupportedType m) ↔
    mediaType = some m ∧ ¬ MediaType.IsText m
  encoding : MediaType.Accepted mediaType →
    ((∃ fault, result = .error (.encoding fault)) ↔ ¬ ByteArray.IsValidUTF8 ⟨bytes.toArray⟩)
  whole : MediaType.Accepted mediaType → ∀ text t, Utf8.bytes text = bytes →
    Unmarked text.toList t → (∀ limit ∈ config.maxLength, t.length ≤ limit) →
      result = .ok (String.ofList t)
  cut : MediaType.Accepted mediaType → ∀ text t, Utf8.bytes text = bytes →
    Unmarked text.toList t → ∀ limit ∈ config.maxLength, limit < t.length →
      (config.overflow = .reject → result = .error (.tooLong limit)) ∧
      (config.overflow = .truncate → result = .ok (String.ofList (t.take limit)))
  kept : ∀ kept, result = .ok kept → (∃ text t, Utf8.bytes text = bytes ∧
    Unmarked text.toList t ∧ kept.toList <+: t) ∧
    (kept.toList.head? ≠ some byteOrderMark →
      extract config mediaType (.ok (Utf8.bytes kept)) = .ok kept)

theorem Extracts.keeps (extracts : Extracts config mediaType bytes result) :
    Keeps config mediaType bytes result where
  unsupported := fun m => by
    constructor
    · intro fails
      cases extracts with
      | unsupported given other =>
          cases fails
          exact ⟨given, other⟩
      | encoding => cases fails
      | bounded =>
          obtain ⟨_, different⟩ := tooLong_of_map_bound fails
          cases different
    · rintro ⟨given, other⟩
      cases extracts with
      | unsupported given' => rw [Option.some_inj.mp (given.symm.trans given')]
      | encoding accepted => exact absurd (accepted m given) other
      | bounded _ accepted => exact absurd (accepted m given) other
  encoding := fun accepted => by
    rw [isValidUTF8_iff]
    cases extracts with
    | unsupported given other => exact absurd (accepted _ given) other
    | encoding _ none => exact iff_of_true ⟨_, rfl⟩ none
    | bounded text _ spelt unmarked =>
        refine iff_of_false ?_ (not_not.mpr ⟨text, spelt⟩)
        rintro ⟨fault, fails⟩
        obtain ⟨_, different⟩ := tooLong_of_map_bound fails
        cases different
  whole := fun accepted text t spelt unmarked fits => by
    rw [extracts.eq_bound accepted spelt unmarked, bound_of_le fits]
    rfl
  cut := fun accepted text t spelt unmarked limit limited long => by
    rw [extracts.eq_bound accepted spelt unmarked, bound_of_lt limited long]
    constructor
    · intro rejects
      rw [if_pos rejects]
      rfl
    · intro truncates
      rw [truncates]
      rfl
  kept := fun kept done => by
    cases extracts with
    | unsupported => cases done
    | encoding => cases done
    | @bounded text t accepted spelt unmarked =>
        obtain ⟨kept, whole, rfl⟩ := Attempt.map_eq_ok done
        rcases bound_cases config t with ⟨_, bounded, front, again⟩ | ⟨limit, long⟩
        swap
        · cases long.symm.trans whole
        cases whole.symm.trans bounded
        rw [String.toList_ofList]
        refine ⟨⟨text, _, spelt, unmarked, front⟩, fun unmarked => ?_⟩
        have unmarked : Unmarked (String.ofList kept).toList kept := by
          rw [String.toList_ofList]
          exact .inr ⟨unmarked, rfl⟩
        rw [(extracts_extract ..).eq_bound accepted rfl unmarked, again]
        rfl

theorem extract_keeps (config : ExtractorConfig) (mediaType : Option String)
    (bytes : List UInt8) :
    Keeps config mediaType bytes (extract config mediaType (.ok bytes)) :=
  (extracts_extract config mediaType bytes).keeps

theorem extract_keeps_cut :
    extract ⟨some 3, .truncate⟩ (some " Text/Plain ; charset=utf-8")
      (.ok (Utf8.bytes "\uFEFFh€😀llo")) = .ok "h€😀" := by
  have accepted : MediaType.Accepted (some " Text/Plain ; charset=utf-8") :=
    MediaType.isTextual_iff.mp (by decide)
  exact ((extract_keeps ..).cut accepted _ "h€😀llo".toList rfl (.inl (by decide)) 3 rfl
    (by decide)).2 rfl

end Extraction

end RecordSearch
