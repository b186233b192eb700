import Mathlib.Data.List.Basic
import RecordSearch.Record.Stored

/-!
# Records and their stored forms

An index keeps a record without the fractions of its dates and with nothing else changed: reading
the fields of a record back gives the record with its dates in whole seconds, under any registry,
whatever kinds it declares for texts.
-/

namespace RecordSearch

open RecordSearch.Time (Instant)

/-- The value that a record gets back from a field. -/
def Field.value : Field → Value
  | .text s => .text s
  | .date seconds => .date (.ofSeconds seconds)

namespace Record

theorem ext_value {r r' : Record} (agree : ∀ a, r.value a = r'.value a) : r = r' := by
  have textInjective : Function.Injective Value.text := fun _ _ equality => by
    injection equality
  have dateInjective : Function.Injective Value.date := fun _ _ equality => by
    injection equality
  obtain ⟨id, contents, sourceLocation, metadataLocation, title, countryCode, createdAt,
    modifiedAt, mediaType⟩ := r
  obtain ⟨id', contents', sourceLocation', metadataLocation', title', countryCode', createdAt',
    modifiedAt', mediaType'⟩ := r'
  have identity : id = id' := by simpa [value] using agree .id
  have texts {s s' : Option String} (equality : s.map Value.text = s'.map Value.text) : s = s' :=
    Option.map_injective textInjective equality
  have dates {t t' : Option Instant} (equality : t.map Value.date = t'.map Value.date) : t = t' :=
    Option.map_injective dateInjective equality
  obtain rfl := identity
  obtain rfl := texts (agree .contents)
  obtain rfl := texts (agree .sourceLocation)
  obtain rfl := texts (agree .metadataLocation)
  obtain rfl := texts (agree .title)
  obtain rfl := texts (agree .countryCode)
  obtain rfl := dates (agree .createdAt)
  obtain rfl := dates (agree .modifiedAt)
  obtain rfl := texts (agree .mediaType)
  rfl

/-- A record with its dates in whole seconds. -/
def floorDates (r : Record) : Record :=
  { r with
    createdAt := r.createdAt.map Instant.floor
    modifiedAt := r.modifiedAt.map Instant.floor }

@[simp]
theorem floorDates_id (r : Record) : r.floorDates.id = r.id := rfl

theorem value_floorDates (r : Record) (a : Attribute) :
    r.floorDates.value a = (r.value a).map fun v => (Field.ofValue v).value := by
  cases a <;> simp [value, floorDates, Field.ofValue, Field.value, Option.map_map] <;> rfl

@[simp]
theorem floorDates_floorDates (r : Record) : r.floorDates.floorDates = r.floorDates := by
  apply ext_value
  intro a
  rw [value_floorDates, value_floorDates]
  cases r.value a with
  | none => rfl
  | some v => cases v <;> rfl

theorem isDate_of_value_date {r : Record} {a : Attribute} {at' : Instant}
    (held : r.value a = some (.date at')) : a.isDate = true := by
  cases a <;> simp [value] at held <;> rfl

theorem not_isDate_of_value_text {r : Record} {a : Attribute} {s : String}
    (held : r.value a = some (.text s)) : a.isDate = false := by
  cases a <;> simp [value] at held <;> rfl

theorem setText_name (r : Record) {a : Attribute} (isText : a.isDate = false) (s : String) :
    ∃ r', r.setText a.name s = .ok r' ∧
      ∀ b, r'.value b = if b = a then some (.text s) else r.value b := by
  cases a <;> simp [Attribute.isDate] at isText <;>
    exact ⟨_, rfl, fun b => by cases b <;> rfl⟩

theorem setDate_name (r : Record) {a : Attribute} (isDate : a.isDate = true) (at' : Instant) :
    ∃ r', r.setDate a.name at' = .ok r' ∧
      ∀ b, r'.value b = if b = a then some (.date at') else r.value b := by
  cases a <;> simp [Attribute.isDate] at isDate <;>
    exact ⟨_, rfl, fun b => by cases b <;> rfl⟩

end Record

namespace Stored

theorem lookup_filterMap {α β : Type} [DecidableEq α] (f : α → Option β) (l : List α) (a : α) :
    (l.filterMap fun b => (f b).map fun v => (b, v)).lookup a = if a ∈ l then f a else none := by
  induction l with
  | nil => rfl
  | cons b l inductionHypothesis =>
      by_cases same : a = b
      · subst same
        cases held : f a with
        | none => simp [held, inductionHypothesis]
        | some v => simp [held]
      · have apart : (a == b) = false := by simpa using same
        cases held : f b with
        | none => simp [held, same, inductionHypothesis]
        | some v => simp [held, same, apart, List.lookup_cons, inductionHypothesis]

@[simp]
theorem field?_ofRecord (registry : Registry) (r : Record) (a : Attribute) :
    (ofRecord registry r).field? a = (r.value a).map Field.ofValue := by
  have found := lookup_filterMap (fun a => (r.value a).map Field.ofValue) registry.order a
  rw [if_pos (registry.mem_order a)] at found
  simpa [field?, ofRecord, Option.map_map, Function.comp_def] using found

@[simp]
theorem text?_ofRecord (registry : Registry) (r : Record) (a : Attribute) :
    (ofRecord registry r).text? a = r.text? a := by
  simp only [text?, Record.text?, field?_ofRecord]
  cases r.value a with
  | none => rfl
  | some v => cases v <;> rfl

theorem ofRecord_floorDates (registry : Registry) (r : Record) :
    ofRecord registry r.floorDates = ofRecord registry r := by
  simp only [ofRecord, Record.value_floorDates, Option.map_map]
  congr 2
  funext a
  cases r.value a with
  | none => rfl
  | some v => cases v <;> rfl

theorem restore_ofRecord (layout registry : Registry) (r partial' : Record) (a : Attribute) :
    ∃ r', restore registry (ofRecord layout r) partial' a = .ok r' ∧
      ∀ b, r'.value b =
        if b = a then (r.floorDates.value a).or (partial'.value a) else partial'.value b := by
  rw [Record.value_floorDates]
  cases held : r.value a with
  | none =>
      refine ⟨partial', ?_, fun b => by by_cases same : b = a <;> simp [same]⟩
      cases kind : registry.kind a <;> simp [restore, kind, text?, seconds?, held]
  | some v =>
      cases v with
      | text s =>
          have isText := Record.not_isDate_of_value_text held
          have kind : registry.kind a ≠ .date := fun isDate => by
            simp [(registry.kind_date a).mp isDate] at isText
          obtain ⟨r', set, values⟩ := partial'.setText_name isText s
          refine ⟨r', ?_, by simpa [Field.ofValue, Field.value] using values⟩
          cases found : registry.kind a <;>
            simp_all [restore, text?, Field.ofValue]
      | date at' =>
          have isDate := Record.isDate_of_value_date held
          obtain ⟨r', set, values⟩ := partial'.setDate_name isDate (.ofSeconds at'.seconds)
          refine ⟨r', ?_, by simpa [Field.ofValue, Field.value] using values⟩
          simpa [restore, (registry.kind_date a).mpr isDate, seconds?, held, Field.ofValue]
            using set

/-- Restoring some attributes one after another sets these and no others. -/
theorem foldlM_restore_ofRecord (layout registry : Registry) (r partial' : Record)
    (l : List Attribute) :
    ∃ r', l.foldlM (restore registry (ofRecord layout r)) partial' = .ok r' ∧
      ∀ b, r'.value b =
        if b ∈ l then (r.floorDates.value b).or (partial'.value b) else partial'.value b := by
  induction l generalizing partial' with
  | nil => exact ⟨partial', rfl, by simp⟩
  | cons a l inductionHypothesis =>
      obtain ⟨middle, restored, middleValues⟩ := restore_ofRecord layout registry r partial' a
      obtain ⟨r', rest, values⟩ := inductionHypothesis middle
      refine ⟨r', ?_, ?_⟩
      · rw [List.foldlM_cons, restored]
        exact rest
      · intro b
        rw [values b, middleValues b]
        by_cases same : b = a
        · subst same
          by_cases later : b ∈ l <;> simp [later]
          cases r.floorDates.value b <;> simp
        · by_cases later : b ∈ l <;> simp [same, later]

/-- What an index gives back of a record is the record with its dates in whole seconds, if that is
complete under the registry that reads it. -/
theorem toRecord_ofRecord (layout registry : Registry) (r : Record) :
    (ofRecord layout r).toRecord registry = r.floorDates.finish registry := by
  obtain ⟨r', restored, values⟩ :=
    foldlM_restore_ofRecord layout registry r (Record.blank "") registry.order
  have same : r' = r.floorDates := by
    apply Record.ext_value
    intro a
    rw [values a, if_pos (registry.mem_order a)]
    cases held : r.floorDates.value a with
    | some v => rfl
    | none => cases a <;> simp [Record.value] at held <;> rfl
  simp only [toRecord, restored, same]

end Stored

end RecordSearch
