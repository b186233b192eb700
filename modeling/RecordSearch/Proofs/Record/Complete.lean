import RecordSearch.Proofs.Record.Stored

/-!
# Complete records

A record that is complete under a registry stays so in a store: its identity is kept, and no value
is lost with the fraction of a date.
-/

namespace RecordSearch.Record

variable {registry : Registry} {r r' : Record}

/-- Nothing is wrong with a record under a registry. -/
def Complete (registry : Registry) (r : Record) : Prop := r.finish registry = .ok r

/-- A record that is the outcome of some steps under a registry. -/
def Built (registry : Registry) (r : Record) : Prop :=
  ∃ id steps, (ofSteps id steps).finish registry = .ok r

/-- A record as a store hands it out: it is complete, and its dates have no fractions. -/
structure Settled (registry : Registry) (r : Record) : Prop where
  complete : r.Complete registry
  whole : r.floorDates = r

theorem finish_eq_ok_iff : r.finish registry = .ok r' ↔ r.fault? registry = none ∧ r = r' := by
  unfold finish
  cases r.fault? registry <;> simp

theorem complete_iff : r.Complete registry ↔ r.fault? registry = none := by
  simp [Complete, finish_eq_ok_iff]

theorem Built.complete (built : r.Built registry) : r.Complete registry := by
  obtain ⟨id, steps, finished⟩ := built
  obtain ⟨sound, rfl⟩ := finish_eq_ok_iff.mp finished
  exact complete_iff.mpr sound

/-- Only the presence of values and the identity decide what is wrong with a record. -/
theorem fault?_congr (identity : r.id = r'.id)
    (presence : ∀ a, (r.value a).isNone = (r'.value a).isNone) :
    r.fault? registry = r'.fault? registry := by
  simp only [fault?, lacking, identity, presence]

@[simp]
theorem fault?_floorDates : r.floorDates.fault? registry = r.fault? registry :=
  fault?_congr rfl fun a => by simp [value_floorDates]

theorem Complete.settled (complete : r.Complete registry) : r.floorDates.Settled registry where
  complete := complete_iff.mpr (by simpa using complete_iff.mp complete)
  whole := floorDates_floorDates r

/-- A record that is settled is read back as it is. -/
theorem Settled.toRecord_ofRecord (layout : Registry) (settled : r.Settled registry) :
    (Stored.ofRecord layout r).toRecord registry = .ok r := by
  rw [Stored.toRecord_ofRecord, settled.whole]
  exact settled.complete

end RecordSearch.Record
