import RecordSearch.Proofs.Store.Kept

/-!
# Records with stamped dates

A stamp sets both dates of a record to one moment without its fraction, and an index keeps the
seconds of dates.  The two agree on every moment but a leap second, which has no fraction to drop
and is no whole second of its own: a record that is stamped in one comes back with the dates of the
second before.
-/

namespace RecordSearch

open RecordSearch.Time (Instant)

namespace Time.Instant

@[simp]
theorem floor_dropFraction (t : Instant) : t.dropFraction.floor = t.floor := rfl

/-- Dropping the fraction gives the start of the second, unless that is a leap second. -/
theorem floor_eq_dropFraction_iff {t : Instant} :
    t.floor = t.dropFraction ↔ t.nanos < 1000000000 := by
  unfold floor ofSeconds dropFraction
  by_cases ordinary : t.nanos < 1000000000 <;> simp [ordinary]

end Time.Instant

namespace Record

variable {t : Instant} {at' : Option Instant} {r : Record} {step : Step} {steps : List Step}

def Step.setsDate : Step → Bool
  | timestamps _ => true
  | date name _ => (Attribute.ofName? name).any Attribute.isDate
  | _ => false

structure DatedAt (at' : Option Instant) (r : Record) : Prop where
  created : r.createdAt = at'
  modified : r.modifiedAt = at'

theorem datedAt_blank (id : String) : (blank id).DatedAt none := ⟨rfl, rfl⟩

theorem datedAt_stamp (t : Instant) (r : Record) : (r.stamp t).DatedAt (some t.dropFraction) :=
  ⟨rfl, rfl⟩

namespace DatedAt

theorem floorDates_eq (dated : r.DatedAt (some t.dropFraction)) :
    r.floorDates = { r with createdAt := some t.floor, modifiedAt := some t.floor } := by
  simp [floorDates, dated.created, dated.modified]

theorem floorDates_eq_self_iff (dated : r.DatedAt (some t.dropFraction)) :
    r.floorDates = r ↔ t.nanos < 1000000000 := by
  rw [← Instant.floor_eq_dropFraction_iff, dated.floorDates_eq]
  constructor
  · intro same
    have created := congrArg createdAt same
    exact Option.some.inj (created.trans dated.created)
  · intro whole
    obtain ⟨created, modified⟩ := dated
    cases r
    cases created
    cases modified
    rw [whole]

theorem of_setText {r' : Record} {name value : String} (dated : r.DatedAt at')
    (set : r.setText name value = .ok r') : r'.DatedAt at' := by
  obtain ⟨created, modified⟩ := dated
  unfold setText at set
  split at set <;> cases set <;> exact ⟨created, modified⟩

theorem applyOrKeep (dated : r.DatedAt at') (undated : step.setsDate = false) :
    (step.applyOrKeep r).DatedAt at' := by
  have dates : ∀ r', step.apply r = .ok r' → r'.DatedAt at' := by
    intro r' applied
    obtain ⟨created, modified⟩ := dated
    cases step with
    | timestamps t => cases undated
    | text name value => exact DatedAt.of_setText ⟨created, modified⟩ applied
    | date name value =>
        simp only [Step.apply, setDate] at applied
        simp only [Step.setsDate] at undated
        cases named : Attribute.ofName? name with
        | none => simp [named] at applied
        | some a => cases a <;> simp [named, Attribute.isDate] at applied undated
    | contents _ | sourceLocation _ | metadataLocation _ | title _ | countryCode _ | mediaType _ =>
        cases applied
        exact ⟨created, modified⟩
  unfold Step.applyOrKeep
  split
  · exact dates _ (by assumption)
  · exact dated

/-- Steps that fill in no date but stamps of one moment leave the dates at that moment once there is
a stamp among them. -/
theorem foldl_applyOrKeep (dated : r.DatedAt at')
    (only : ∀ step ∈ steps, step = .timestamps t ∨ step.setsDate = false) :
    (steps.foldl Step.applyOrKeep r).DatedAt
      (if .timestamps t ∈ steps then some t.dropFraction else at') := by
  induction steps generalizing r at' with
  | nil => exact dated
  | cons step steps inductionHypothesis =>
      have rest : ∀ step' ∈ steps, step' = .timestamps t ∨ step'.setsDate = false :=
        fun step' member => only step' (List.mem_cons_of_mem step member)
      rcases only step List.mem_cons_self with rfl | undated
      · have next := inductionHypothesis (datedAt_stamp t r) rest
        rw [ite_self] at next
        rwa [if_pos List.mem_cons_self]
      · have next := inductionHypothesis (dated.applyOrKeep undated) rest
        have other : Step.timestamps t ≠ step := by
          rintro rfl
          cases undated
        simpa [other] using next

end DatedAt

theorem datedAt_ofSteps {id : String} (stamped : .timestamps t ∈ steps)
    (only : ∀ step ∈ steps, step = .timestamps t ∨ step.setsDate = false) :
    (ofSteps id steps).DatedAt (some t.dropFraction) := by
  have dated := (datedAt_blank id).foldl_applyOrKeep only
  rwa [if_pos stamped] at dated

end Record

namespace Store

open Record

theorem save_of_free {s : Store} {r : Record} (writable : s.handle.writable = true)
    (short : r.id.utf8ByteSize ≤ longestKeyword) (free : s.keptUnder r.id = []) :
    ∃ s', save r s = (.ok (), s') ∧
      s'.keptUnder r.id = [.ofRecord s.handle.registry r] := by
  refine ⟨s.commit (s.index.records ++ [.ofRecord s.handle.registry r]), ?_, ?_⟩
  · rw [save_of_short short writable, free]
    rfl
  · rw [keptUnder_commit_append, free, if_pos rfl, List.nil_append]

/-- A record whose dates are stamps of one moment is read back, through any handle on its index,
with both dates at the start of the second of that moment.  That is the record that was saved
exactly if the moment is in no leap second. -/
theorem find_of_stamped {s : Store} {t : Instant} {id : String} {steps : List Step} {r : Record}
    (stamped : .timestamps t ∈ steps)
    (only : ∀ step ∈ steps, step = .timestamps t ∨ step.setsDate = false)
    (made : (ofSteps id steps).finish s.handle.registry = .ok r)
    (writable : s.handle.writable = true) (short : r.id.utf8ByteSize ≤ longestKeyword)
    (free : s.keptUnder r.id = []) :
    r.DatedAt (some t.dropFraction) ∧ ∃ s', save r s = (.ok (), s') ∧
      ∀ h : Handle, h.registry = s.handle.registry →
        (find r.id ⟨s'.index, h⟩).1 =
            .ok (some { r with createdAt := some t.floor, modifiedAt := some t.floor }) ∧
          ((find r.id ⟨s'.index, h⟩).1 = .ok (some r) ↔ t.nanos < 1000000000) := by
  obtain ⟨s', saved, kept⟩ := save_of_free writable short free
  have complete : r.Complete s.handle.registry := Built.complete ⟨id, steps, made⟩
  have dated : r.DatedAt (some t.dropFraction) := by
    obtain ⟨-, rfl⟩ := finish_eq_ok_iff.mp made
    exact datedAt_ofSteps stamped only
  refine ⟨dated, s', saved, fun h same => ?_⟩
  have found : (find r.id ⟨s'.index, h⟩).1 = .ok (some r.floorDates) := by
    rw [← same] at complete kept
    rw [find_of_keptUnder (s := ⟨s'.index, h⟩) short complete kept]
  rw [found, dated.floorDates_eq, ← dated.floorDates_eq_self_iff, dated.floorDates_eq]
  exact ⟨rfl, by simp⟩

/-- The record of a moment before 1970, with a fraction, is read back as it was saved. -/
theorem find_of_stamped_before_1970 :
    ∃ s', save (ofSteps "a" [.timestamps ⟨-2, 500000000, by decide⟩, .text "title" "b"])
        (keeping Registry.standard []) = (.ok (), s') ∧
      (find "a" s').1 =
        .ok (some (ofSteps "a" [.timestamps ⟨-2, 500000000, by decide⟩, .text "title" "b"])) := by
  have made : (ofSteps "a" [.timestamps ⟨-2, 500000000, by decide⟩, .text "title" "b"]).finish
      (keeping Registry.standard []).handle.registry =
        .ok (ofSteps "a" [.timestamps ⟨-2, 500000000, by decide⟩, .text "title" "b"]) := rfl
  obtain ⟨-, s', saved, found⟩ :=
    find_of_stamped List.mem_cons_self (by simp [Step.setsDate]) made rfl (by decide) rfl
  have registry : s'.handle.registry = Registry.standard := by
    cases saved
    rfl
  exact ⟨s', saved, (found s'.handle registry).2.mpr (by decide)⟩

/-- A record that is stamped in a leap second, half a second after it began, is read back with the
dates of the second before. -/
theorem find_of_stamped_leap_second :
    ∃ s', save (ofSteps "a" [.timestamps ⟨1483228799, 1500000000, by decide⟩])
        (keeping Registry.standard []) = (.ok (), s') ∧
      (find "a" s').1 = .ok (some (ofSteps "a" [.timestamps (.ofSeconds 1483228799)])) ∧
      (find "a" s').1 ≠
        .ok (some (ofSteps "a" [.timestamps ⟨1483228799, 1500000000, by decide⟩])) := by
  refine ⟨_, rfl, rfl, fun same => ?_⟩
  have dates := congrArg (Option.map createdAt) (Except.ok.inj same)
  exact absurd dates (by decide)

end Store

end RecordSearch
