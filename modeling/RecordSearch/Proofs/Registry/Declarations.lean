import RecordSearch.Proofs.Attempt
import RecordSearch.Registry

/-!
# Lists of declarations

A list of declarations is complete if it names every attribute once and each declaration suits its
attribute.  A list that is not is refused: the first declaration that offends decides why or, where
none does, the first attribute that is not declared.  The entries of a registry are read from the
complete lists, and reading stops at the fault for which a list is refused.
-/

namespace RecordSearch

namespace Attribute

def names : List String := list.map name

def dateNames : List String := ["createdAt", "modifiedAt"]

theorem dateNames_subset_names : dateNames ⊆ names := by decide

theorem mem_names_iff {s : String} : s ∈ names ↔ ∃ a : Attribute, a.name = s := by
  rw [names, List.mem_map]
  exact ⟨fun ⟨a, _, same⟩ => ⟨a, same⟩, fun ⟨a, same⟩ => ⟨a, a.mem_list, same⟩⟩

theorem ofName?_eq_none_iff {s : String} : ofName? s = none ↔ s ∉ names := by
  rw [mem_names_iff]
  constructor
  · rintro unknown ⟨a, rfl⟩
    rw [ofName?_name] at unknown
    cases unknown
  · intro unknown
    cases named : ofName? s with
    | none => rfl
    | some a => exact absurd ⟨a, name_of_ofName? named⟩ unknown

theorem name_mem_dateNames_iff {a : Attribute} : a.name ∈ dateNames ↔ a.isDate = true := by
  cases a <;> decide

@[simp]
theorem name_inj {a b : Attribute} : a.name = b.name ↔ a = b :=
  ⟨name_injective, fun same => same ▸ rfl⟩

end Attribute

namespace Declaration

variable {earlier ds : List Declaration} {d : Declaration} {fault : RegistryFault}

/-- A declaration that suits the attribute with its name: dates and only dates are declared as
dates, and the identity is a required keyword. -/
structure Suits (d : Declaration) : Prop where
  date : d.name ∈ Attribute.dateNames → d.kind = .date
  other : d.name ∉ Attribute.dateNames → d.kind = .text ∨ d.kind = .keyword
  identity : d.name = "id" → d.kind = .keyword ∧ d.required = true

structure Complete (ds : List Declaration) : Prop where
  names : (ds.map name).Perm Attribute.names
  suits : ∀ d ∈ ds, d.Suits

/-- What is wrong with a declaration behind some others. Of several faults the first counts, in the
order of the cases. -/
inductive Offends (earlier : List Declaration) (d : Declaration) : RegistryFault → Prop
  | unknown (other : d.name ∉ Attribute.names) : Offends earlier d (.unknown d.name)
  | duplicate (known : d.name ∈ Attribute.names) (again : d.name ∈ earlier.map name) :
      Offends earlier d (.duplicate d.name)
  | notDate (fresh : d.name ∉ earlier.map name) (date : d.name ∈ Attribute.dateNames)
      (kind : d.kind ≠ .date) : Offends earlier d (.typeMismatch d.name "date")
  | notText (known : d.name ∈ Attribute.names) (fresh : d.name ∉ earlier.map name)
      (other : d.name ∉ Attribute.dateNames) (kind : d.kind = .date) :
      Offends earlier d (.typeMismatch d.name "text or string")
  | identity (fresh : d.name ∉ earlier.map name) (same : d.name = "id") (text : d.kind ≠ .date)
      (unfit : d.kind ≠ .keyword ∨ d.required = false) : Offends earlier d .invalidIdentity

/-- No declaration of a list offends behind the ones before it. -/
def Sound (earlier ds : List Declaration) : Prop :=
  ∀ before d after, ds = before ++ d :: after → ∀ fault, ¬ d.Offends (earlier ++ before) fault

/-- Why a list of declarations behind others is refused: a declaration offends and none before it
does, or none offends and some attribute is the first without a declaration. -/
inductive Refused (earlier ds : List Declaration) : RegistryFault → Prop
  | offence {before after : List Declaration} {d : Declaration} {fault : RegistryFault}
      (place : ds = before ++ d :: after) (sound : Sound earlier before)
      (offends : d.Offends (earlier ++ before) fault) : Refused earlier ds fault
  | missing {before after : List Attribute} {a : Attribute} (sound : Sound earlier ds)
      (place : Attribute.list = before ++ a :: after)
      (declared : ∀ b ∈ before, b.name ∈ (earlier ++ ds).map name)
      (absent : a.name ∉ (earlier ++ ds).map name) : Refused earlier ds (.missing a.name)

section Declarations

/-- What can only be wrong with a declaration behind some others, if anything is. -/
def suspect (earlier : List Declaration) (d : Declaration) : RegistryFault :=
  if d.name ∉ Attribute.names then .unknown d.name
  else if d.name ∈ earlier.map name then .duplicate d.name
  else if d.name ∈ Attribute.dateNames then .typeMismatch d.name "date"
  else if d.kind = .date then .typeMismatch d.name "text or string"
  else .invalidIdentity

theorem Offends.eq_suspect (offends : d.Offends earlier fault) : fault = d.suspect earlier := by
  cases offends with
  | unknown other => rw [suspect, if_pos other]
  | duplicate known again => rw [suspect, if_neg (not_not_intro known), if_pos again]
  | notDate fresh date kind =>
      have known := Attribute.dateNames_subset_names date
      rw [suspect, if_neg (not_not_intro known), if_neg fresh, if_pos date]
  | notText known fresh other kind =>
      rw [suspect, if_neg (not_not_intro known), if_neg fresh, if_neg other, if_pos kind]
  | identity fresh same text unfit =>
      have known : d.name ∈ Attribute.names := same ▸ by decide
      have other : d.name ∉ Attribute.dateNames := same ▸ by decide
      rw [suspect, if_neg (not_not_intro known), if_neg fresh, if_neg other, if_neg text]

theorem Offends.unique {fault' : RegistryFault} (offends : d.Offends earlier fault)
    (offends' : d.Offends earlier fault') : fault = fault' :=
  offends.eq_suspect.trans offends'.eq_suspect.symm

structure Fits (earlier : List Declaration) (d : Declaration) : Prop where
  known : d.name ∈ Attribute.names
  fresh : d.name ∉ earlier.map name
  suits : d.Suits

theorem Fits.not_offends (fits : d.Fits earlier) : ¬ d.Offends earlier fault := by
  obtain ⟨known, fresh, date, other, identity⟩ := fits
  intro offends
  cases offends with
  | unknown unknown => exact unknown known
  | duplicate _ again => exact fresh again
  | notDate _ within kind => exact kind (date within)
  | notText _ _ outside kind =>
      rcases other outside with text | keyword
      · exact absurd (text.symm.trans kind) (by decide)
      · exact absurd (keyword.symm.trans kind) (by decide)
  | identity _ same _ unfit =>
      obtain ⟨keyword, required⟩ := identity same
      rcases unfit with kind | optional
      · exact kind keyword
      · rw [required] at optional
        cases optional

theorem sound_nil (earlier : List Declaration) : Sound earlier [] := by
  intro before d after place
  simp at place

theorem sound_cons_iff :
    Sound earlier (d :: ds) ↔ (∀ fault, ¬ d.Offends earlier fault) ∧ Sound (earlier ++ [d]) ds := by
  constructor
  · intro sound
    constructor
    · simpa using sound [] d ds rfl
    · rintro before e after rfl
      simpa using sound (d :: before) e after rfl
  · rintro ⟨first, later⟩ before e after place
    cases before with
    | nil =>
        cases place
        simpa using first
    | cons e' before =>
        cases place
        simpa using later before e after rfl

theorem refused_cons_iff :
    Refused earlier (d :: ds) fault ↔ d.Offends earlier fault ∨
      (∀ fault, ¬ d.Offends earlier fault) ∧ Refused (earlier ++ [d]) ds fault := by
  constructor
  · rintro (⟨place, sound, offends⟩ | ⟨sound, place, declared, absent⟩)
    · rename_i before after e
      cases before with
      | nil =>
          cases place
          exact .inl (by simpa using offends)
      | cons e' before =>
          cases place
          obtain ⟨first, later⟩ := sound_cons_iff.mp sound
          exact .inr ⟨first, .offence rfl later (by simpa using offends)⟩
    · obtain ⟨first, later⟩ := sound_cons_iff.mp sound
      exact .inr ⟨first, .missing later place (by simpa using declared) (by simpa using absent)⟩
  · rintro (offends | ⟨first, ⟨place, sound, offends⟩ | ⟨sound, place, declared, absent⟩⟩)
    · exact .offence (List.nil_append _).symm (sound_nil _) (by simpa using offends)
    · subst place
      exact .offence (List.cons_append ..).symm (sound_cons_iff.mpr ⟨first, sound⟩)
        (by simpa using offends)
    · exact .missing (sound_cons_iff.mpr ⟨first, sound⟩) place (by simpa using declared)
        (by simpa using absent)

end Declarations

end Declaration

def Entry.declaration (e : Entry) : Declaration := ⟨e.attr.name, e.kind, e.queryable, e.required⟩

namespace Declaration

variable {earlier ds : List Declaration} {seen : List Attribute} {d : Declaration}
  {fault : RegistryFault} {e : Entry} {es : List Entry}

section Entries

def entryBehind (seen : List Attribute) (d : Declaration) : Except RegistryFault Entry :=
  match Attribute.ofName? d.name with
  | none => .error (.unknown d.name)
  | some a => if a ∈ seen then .error (.duplicate d.name) else d.entry a

theorem entries_cons (seen : List Attribute) (d : Declaration) (ds : List Declaration) :
    entries seen (d :: ds) =
      (d.entryBehind seen >>= fun e => (e :: ·) <$> entries (e.attr :: seen) ds) := by
  rw [entries, entryBehind]
  cases Attribute.ofName? d.name with
  | none => rfl
  | some a =>
      by_cases again : a ∈ seen
      · simp only [again, if_true]
        rfl
      · simp only [again, if_false]
        cases made : d.entry a with
        | error fault => rfl
        | ok e =>
            rw [show (Except.ok e >>= fun e => (e :: ·) <$> entries (e.attr :: seen) ds) =
              (e :: ·) <$> entries (e.attr :: seen) ds from rfl, attr_of_entry made]
            cases entries (a :: seen) ds <;> rfl

def Lists (seen : List Attribute) (earlier : List Declaration) : Prop :=
  ∀ a : Attribute, a ∈ seen ↔ a.name ∈ earlier.map name

theorem Lists.cons (lists : Lists seen earlier) (same : e.declaration = d) :
    Lists (e.attr :: seen) (earlier ++ [d]) := by
  intro a
  rw [List.mem_cons, lists a, List.map_append, List.mem_append, or_comm, ← same]
  apply or_congr_right
  rw [List.map_singleton, List.mem_singleton]
  exact ⟨fun attr => attr ▸ rfl, Attribute.name_injective⟩

theorem entry_cases {a : Attribute} (named : a.name = d.name) (fresh : d.name ∉ earlier.map name) :
    (∃ fault, d.entry a = .error fault ∧ d.Offends earlier fault) ∨
      ∃ e, d.entry a = .ok e ∧ e.declaration = d ∧ d.Suits := by
  have known : d.name ∈ Attribute.names := Attribute.mem_names_iff.mpr ⟨a, named⟩
  have dates : d.name ∈ Attribute.dateNames ↔ a.isDate = true :=
    named ▸ Attribute.name_mem_dateNames_iff
  have identities : d.name = "id" ↔ a = .id :=
    named ▸ Attribute.name_inj (b := .id)
  unfold entry
  by_cases kind_date : d.kind = .date ↔ a.isDate = true
  · by_cases identity : a = .id → d.kind = .keyword ∧ d.required = true
    · refine .inr ⟨_, by rw [dif_pos kind_date, dif_pos identity], ?_, ?_⟩
      · rw [Entry.declaration, named]
      · refine ⟨fun date => kind_date.mpr (dates.mp date), fun other => ?_,
          fun same => identity (identities.mp same)⟩
        cases kind : d.kind with
        | text => exact .inl rfl
        | keyword => exact .inr rfl
        | date => exact absurd (dates.mpr (kind_date.mp kind)) other
    · obtain ⟨rfl, unfit⟩ := Classical.not_imp.mp identity
      refine .inl ⟨.invalidIdentity, by rw [dif_pos kind_date, dif_neg identity], ?_⟩
      refine .identity fresh (identities.mpr rfl) (fun kind => ?_) ?_
      · cases kind_date.mp kind
      · rwa [not_and_or, Bool.not_eq_true] at unfit
  · refine .inl ⟨_, dif_neg kind_date, ?_⟩
    by_cases date : a.isDate = true
    · rw [if_pos date]
      exact .notDate fresh (dates.mpr date) fun kind => kind_date ⟨fun _ => date, fun _ => kind⟩
    · rw [if_neg date]
      refine .notText known fresh (fun within => date (dates.mp within)) ?_
      by_contra kind
      exact kind_date ⟨fun same => absurd same kind, fun same => absurd same date⟩

/-- What comes first in a list of declarations offends, or it is kept and does not. -/
theorem entryBehind_cases (lists : Lists seen earlier) (d : Declaration) :
    (∃ fault, d.entryBehind seen = .error fault ∧ d.Offends earlier fault) ∨
      ∃ e, d.entryBehind seen = .ok e ∧ e.declaration = d ∧ d.Fits earlier := by
  unfold entryBehind
  cases named : Attribute.ofName? d.name with
  | none => exact .inl ⟨_, rfl, .unknown (Attribute.ofName?_eq_none_iff.mp named)⟩
  | some a =>
      have same := Attribute.name_of_ofName? named
      have known : d.name ∈ Attribute.names := Attribute.mem_names_iff.mpr ⟨a, same⟩
      by_cases again : a ∈ seen
      · refine .inl ⟨_, if_pos again, .duplicate known ?_⟩
        rw [← same]
        exact (lists a).mp again
      · have fresh : d.name ∉ earlier.map name := by
          rw [← same]
          exact fun member => again ((lists a).mpr member)
        simp only [again, if_false]
        rcases entry_cases same fresh with offence | ⟨e, made, kept, suits⟩
        · exact .inl offence
        · exact .inr ⟨e, made, kept, known, fresh, suits⟩

theorem fits_iff_not_offends : d.Fits earlier ↔ ∀ fault, ¬ d.Offends earlier fault := by
  refine ⟨fun fits _ => fits.not_offends, fun inoffensive => ?_⟩
  have lists : Lists (Attribute.list.filter fun a => a.name ∈ earlier.map name) earlier := by
    intro a
    rw [List.mem_filter, decide_eq_true_eq]
    exact and_iff_right a.mem_list
  rcases entryBehind_cases lists d with ⟨fault, -, offends⟩ | ⟨e, -, -, fits⟩
  · exact absurd offends (inoffensive fault)
  · exact fits

theorem find?_undeclared_iff (lists : Lists seen earlier) {a : Attribute} :
    Attribute.list.find? (· ∉ seen) = some a ↔ a.name ∉ earlier.map name ∧
      ∃ before after, Attribute.list = before ++ a :: after ∧
        ∀ b ∈ before, b.name ∈ earlier.map name := by
  have seen_iff (b : Attribute) : b.name ∈ earlier.map name ↔ b ∈ seen := (lists b).symm
  simp only [List.find?_eq_some_iff_append, seen_iff, decide_eq_true_eq, Bool.not_eq_eq_eq_not,
    Bool.not_true, decide_eq_false_iff_not, Decidable.not_not]

theorem refused_nil_iff (lists : Lists seen earlier) :
    Refused earlier [] fault ↔
      ∃ a, Attribute.list.find? (· ∉ seen) = some a ∧ fault = .missing a.name := by
  simp only [find?_undeclared_iff lists]
  constructor
  · rintro (⟨place, -, -⟩ | ⟨-, place, declared, absent⟩)
    · simp at place
    · rw [List.append_nil] at declared absent
      exact ⟨_, ⟨absent, _, _, place, declared⟩, rfl⟩
  · rintro ⟨a, ⟨absent, before, after, place, declared⟩, rfl⟩
    rw [← List.append_nil earlier] at declared absent
    exact .missing (sound_nil _) place declared absent

/-- Reading stops at the fault of the first declaration that offends, or for the first attribute
that is not declared. -/
theorem entries_eq_error_iff (lists : Lists seen earlier) :
    entries seen ds = .error fault ↔ Refused earlier ds fault := by
  induction ds generalizing seen earlier with
  | nil =>
      rw [entries, refused_nil_iff lists]
      cases found : Attribute.list.find? (· ∉ seen) with
      | none => simp
      | some a => simp [eq_comm]
  | cons d ds inductionHypothesis =>
      rw [entries_cons, refused_cons_iff]
      rcases entryBehind_cases lists d with ⟨fault', failed, offends⟩ | ⟨e, made, kept, fits⟩
      · rw [failed]
        constructor
        · rintro ⟨⟩
          exact .inl offends
        · rintro (offends' | ⟨inoffensive, -⟩)
          · rw [offends.unique offends']
            rfl
          · exact absurd offends (inoffensive fault')
      · have later := inductionHypothesis (lists.cons kept)
        rw [made]
        constructor
        · intro failed
          exact .inr ⟨fun _ => fits.not_offends, later.mp (Attempt.map_eq_error failed)⟩
        · rintro (offends | ⟨-, refused⟩)
          · exact absurd offends fits.not_offends
          · show (e :: ·) <$> entries (e.attr :: seen) ds = _
            rw [later.mpr refused]
            rfl

theorem sound_of_entries (lists : Lists seen earlier) (made : entries seen ds = .ok es) :
    Sound earlier ds ∧ es.map Entry.declaration = ds := by
  induction ds generalizing seen earlier es with
  | nil =>
      rw [entries] at made
      split at made <;> cases made
      exact ⟨sound_nil _, rfl⟩
  | cons d ds inductionHypothesis =>
      rw [entries_cons] at made
      obtain ⟨e, first, made⟩ := Attempt.bind_eq_ok made
      obtain ⟨others, later, rfl⟩ := Attempt.map_eq_ok made
      rcases entryBehind_cases lists d with ⟨fault, failed, -⟩ | ⟨e', first', kept, fits⟩
      · rw [failed] at first
        cases first
      · obtain rfl : e' = e := Except.ok.inj (first'.symm.trans first)
        obtain ⟨sound, same⟩ := inductionHypothesis (lists.cons kept) later
        rw [List.map_cons, kept, same]
        exact ⟨sound_cons_iff.mpr ⟨fits_iff_not_offends.mp fits, sound⟩, rfl⟩

theorem sound_iff : Sound earlier ds ↔
    (∀ d ∈ ds, d.Fits earlier) ∧ (ds.map name).Nodup := by
  induction ds generalizing earlier with
  | nil => simp [sound_nil]
  | cons d ds inductionHypothesis =>
      rw [sound_cons_iff, ← fits_iff_not_offends, inductionHypothesis, List.forall_mem_cons,
        List.map_cons, List.nodup_cons]
      constructor
      · rintro ⟨first, later, nodup⟩
        refine ⟨⟨first, fun e member => ?_⟩, fun again => ?_, nodup⟩
        · obtain ⟨known, fresh, suits⟩ := later e member
          rw [List.map_append, List.mem_append, not_or] at fresh
          exact ⟨known, fresh.1, suits⟩
        · obtain ⟨e, member, same⟩ := List.mem_map.mp again
          apply (later e member).fresh
          simp [same]
      · rintro ⟨⟨first, later⟩, apart, nodup⟩
        refine ⟨first, fun e member => ?_, nodup⟩
        obtain ⟨known, fresh, suits⟩ := later e member
        refine ⟨known, ?_, suits⟩
        rw [List.map_append, List.mem_append, not_or]
        refine ⟨fresh, fun same => apart ?_⟩
        rw [← List.mem_singleton.mp same]
        exact List.mem_map_of_mem member

theorem complete_iff_sound :
    Complete ds ↔ Sound [] ds ∧ ∀ a : Attribute, a.name ∈ ds.map name := by
  have nodup : Attribute.names.Nodup := by decide
  rw [sound_iff]
  constructor
  · rintro ⟨names, suits⟩
    refine ⟨⟨fun d member => ⟨?_, List.not_mem_nil, suits d member⟩, ?_⟩, fun a => ?_⟩
    · exact names.subset (List.mem_map_of_mem member)
    · exact names.nodup_iff.mpr nodup
    · exact names.symm.subset (Attribute.mem_names_iff.mpr ⟨a, rfl⟩)
  · rintro ⟨⟨fits, distinct⟩, declared⟩
    refine ⟨(List.perm_ext_iff_of_nodup distinct nodup).mpr fun s => ?_,
      fun d member => (fits d member).suits⟩
    constructor
    · intro member
      obtain ⟨d, within, rfl⟩ := List.mem_map.mp member
      exact (fits d within).known
    · intro member
      obtain ⟨a, rfl⟩ := Attribute.mem_names_iff.mp member
      exact declared a

theorem Complete.perm {ds' : List Declaration} (complete : Complete ds) (perm : ds'.Perm ds) :
    Complete ds' where
  names := (perm.map name).trans complete.names
  suits d member := complete.suits d (perm.subset member)

theorem Complete.not_refused (complete : Complete ds) : ¬ Refused [] ds fault := by
  obtain ⟨sound, declared⟩ := complete_iff_sound.mp complete
  rintro (⟨place, -, offends⟩ | ⟨-, -, -, absent⟩)
  · exact sound _ _ _ place _ offends
  · exact absent (declared _)

theorem lists_nil : Lists [] [] := fun a => by simp

theorem succeeds_entries_iff : Attempt.Succeeds (entries [] ds) ↔ Complete ds := by
  constructor
  · rintro ⟨es, made⟩
    obtain ⟨sound, same⟩ := sound_of_entries lists_nil made
    refine complete_iff_sound.mpr ⟨sound, fun a => ?_⟩
    obtain ⟨e, member, rfl⟩ :=
      List.mem_map.mp (((entries_spec made).2.2 a).resolve_left List.not_mem_nil)
    rw [← same, List.map_map]
    exact List.mem_map_of_mem (f := name ∘ Entry.declaration) member
  · intro complete
    rcases Attempt.succeeds_or_error (entries [] ds) with made | ⟨fault, failed⟩
    · exact made
    · exact absurd ((entries_eq_error_iff lists_nil).mp failed) complete.not_refused

end Entries

end Declaration

end RecordSearch
