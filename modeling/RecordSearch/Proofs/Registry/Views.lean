import Mathlib.Data.List.Nodup
import RecordSearch.Proofs.Registry.Declarations
import RecordSearch.Proofs.Text.Order

/-!
# What registries show

A complete list of declarations makes a registry, and no other list does.  The attributes, those
that may be queried, those that are required and the layout of an index all show the same
declarations, and only the layout shows in which order they were made.
-/

namespace RecordSearch

open RecordSearch.Text

theorem Attribute.ascending_byName (p : Attribute → Bool) :
    Ascending ((byName.filter p).map name) := by
  have all : Ascending (byName.map name) := by
    unfold Ascending
    decide
  exact List.Pairwise.sublist (List.filter_sublist.map _) all

namespace Registry

variable {ds : List Declaration} {r : Registry} {fault : RegistryFault}

theorem ofDeclarations_eq_error_iff :
    ofDeclarations ds = .error fault ↔ Declaration.entries [] ds = .error fault := by
  unfold ofDeclarations
  split
  · next failed => simp [failed]
  · next made => simp [made]

theorem exists_entries (made : ofDeclarations ds = .ok r) :
    ∃ es nodup complete, Declaration.entries [] ds = .ok es ∧ r = ofEntries es nodup complete := by
  unfold ofDeclarations at made
  split at made
  · cases made
  · next es read =>
      cases made
      exact ⟨es, _, _, read, rfl⟩

/-- What a registry says of an attribute. -/
def declaration (r : Registry) (a : Attribute) : Declaration :=
  ⟨a.name, r.kind a, r.queryable a, r.required a⟩

theorem attribute?_name (r : Registry) (a : Attribute) :
    r.attribute? a.name = some (r.declaration a) := by
  rw [attribute?, Attribute.ofName?_name]
  rfl

theorem attribute?_eq_some_iff {name : String} {d : Declaration} :
    r.attribute? name = some d ↔ ∃ a : Attribute, a.name = name ∧ r.declaration a = d := by
  constructor
  · intro found
    cases named : Attribute.ofName? name with
    | none =>
        rw [attribute?, named] at found
        cases found
    | some a =>
        obtain rfl := Attribute.name_of_ofName? named
        rw [attribute?_name] at found
        exact ⟨a, rfl, Option.some.inj found⟩
  · rintro ⟨a, rfl, rfl⟩
    exact r.attribute?_name a

section Entries

variable {es : List Entry} {nodup : (es.map Entry.attr).Nodup}
  {complete : ∀ a, a ∈ es.map Entry.attr} {e : Entry}

theorem find?_attr (nodup : (es.map Entry.attr).Nodup) (member : e ∈ es) :
    Entry.find? es e.attr = some e := by
  cases found : Entry.find? es e.attr with
  | none => simpa using List.find?_eq_none.mp found e member
  | some other =>
      rw [List.inj_on_of_nodup_map nodup (List.mem_of_find?_eq_some found) member
        (Entry.attr_of_find? found)]

theorem declaration_ofEntries (member : e ∈ es) :
    (ofEntries es nodup complete).declaration e.attr = e.declaration := by
  simp [declaration, ofEntries, find?_attr nodup member, Entry.declaration]

theorem attribute?_ofEntries {name : String} {d : Declaration} :
    (ofEntries es nodup complete).attribute? name = some d ↔
      d ∈ es.map Entry.declaration ∧ d.name = name := by
  rw [attribute?_eq_some_iff]
  constructor
  · rintro ⟨a, rfl, rfl⟩
    obtain ⟨e, member, rfl⟩ := List.mem_map.mp (complete a)
    rw [declaration_ofEntries member]
    exact ⟨List.mem_map_of_mem member, rfl⟩
  · rintro ⟨member, rfl⟩
    obtain ⟨e, within, rfl⟩ := List.mem_map.mp member
    exact ⟨e.attr, rfl, declaration_ofEntries within⟩

theorem layout_ofEntries :
    ((ofEntries es nodup complete).layout.map fun field => (field.1.name, field.2)) =
      (es.map Entry.declaration).map fun d => (d.name, d.kind) := by
  rw [layout, List.map_map, List.map_map]
  refine (List.map_map).trans (List.map_congr_left fun e member => ?_)
  have shown : (ofEntries es nodup complete).declaration e.attr = e.declaration :=
    declaration_ofEntries member
  exact congrArg (fun d => (d.name, d.kind)) shown

end Entries

/-- All views of a registry show the same declarations, and the layout of an index also their
order. -/
structure Shows (r : Registry) (ds : List Declaration) : Prop where
  declared : ∀ name d, r.attribute? name = some d ↔ d ∈ ds ∧ d.name = name
  queryable : r.queryableAttributes.map Attribute.name =
    textSet ((ds.filter Declaration.queryable).map Declaration.name)
  isQueryable : ∀ name,
    r.isQueryable name = true ↔ ∃ d ∈ ds, d.queryable = true ∧ d.name = name
  required : r.requiredAttributes.map Attribute.name =
    textSet ((ds.filter Declaration.required).map Declaration.name)
  layout : (r.layout.map fun field => (field.1.name, field.2)) = ds.map fun d => (d.name, d.kind)

section Views

variable (declares : ∀ name d, r.attribute? name = some d ↔ d ∈ ds ∧ d.name = name)

include declares in
theorem flagged_eq (flag : Declaration → Bool) :
    (Attribute.byName.filter fun a => flag (r.declaration a)).map Attribute.name =
      textSet ((ds.filter flag).map Declaration.name) := by
  refine (Attribute.ascending_byName _).eq_textSet fun name => ?_
  simp only [List.mem_map, List.mem_filter]
  constructor
  · rintro ⟨a, ⟨-, flagged⟩, rfl⟩
    exact ⟨_, ⟨((declares _ _).mp (r.attribute?_name a)).1, flagged⟩, rfl⟩
  · rintro ⟨d, ⟨member, flagged⟩, rfl⟩
    obtain ⟨a, same, rfl⟩ := attribute?_eq_some_iff.mp ((declares _ _).mpr ⟨member, rfl⟩)
    exact ⟨a, ⟨a.mem_byName, flagged⟩, same⟩

include declares in
theorem isQueryable_iff_declared {name : String} :
    r.isQueryable name = true ↔ ∃ d ∈ ds, d.queryable = true ∧ d.name = name := by
  have asked : r.isQueryable name = true ↔
      ∃ d, r.attribute? name = some d ∧ d.queryable = true := by
    rw [isQueryable, attribute?]
    cases Attribute.ofName? name <;> simp
  rw [asked]
  refine exists_congr fun d => ?_
  rw [declares, and_assoc, and_comm (a := d.name = name)]

end Views

theorem shows_of_ofDeclarations (made : ofDeclarations ds = .ok r) : r.Shows ds := by
  obtain ⟨es, nodup, complete, read, rfl⟩ := exists_entries made
  obtain ⟨-, rfl⟩ := Declaration.sound_of_entries Declaration.lists_nil read
  have declares := @attribute?_ofEntries es nodup complete
  exact
    { declared := fun name d => declares
      queryable := flagged_eq (fun name d => declares) Declaration.queryable
      isQueryable := fun name => isQueryable_iff_declared fun name d => declares
      required := flagged_eq (fun name d => declares) Declaration.required
      layout := layout_ofEntries }

/-- A registry is told by what it shows, whatever the order. -/
theorem Shows.declaration_eq {ds' : List Declaration} {r' : Registry} (shows : r.Shows ds)
    (shows' : r'.Shows ds') (perm : ds'.Perm ds) : r'.declaration = r.declaration := by
  funext a
  have found := (shows'.declared _ _).mp (r'.attribute?_name a)
  rw [perm.mem_iff, ← shows.declared, attribute?_name] at found
  exact (Option.some.inj found).symm

theorem exists_registry_iff : (∃ r, ofDeclarations ds = .ok r) ↔ Declaration.Complete ds := by
  rw [← Declaration.succeeds_entries_iff]
  constructor
  · rintro ⟨r, made⟩
    obtain ⟨es, -, -, read, -⟩ := exists_entries made
    exact ⟨es, read⟩
  · rintro ⟨es, read⟩
    rcases Attempt.succeeds_or_error (ofDeclarations ds) with made | ⟨fault, failed⟩
    · exact made
    · rw [ofDeclarations_eq_error_iff, read] at failed
      cases failed

/-- Exactly the complete lists of declarations make a registry, and every other list is refused for
its first fault. All views of a registry show what was declared, and only the layout of an index
shows in which order. -/
theorem ofDeclarations_accepts (ds : List Declaration) :
    ((∃ r, ofDeclarations ds = .ok r) ↔ Declaration.Complete ds) ∧
    (∀ fault, ofDeclarations ds = .error fault ↔ Declaration.Refused [] ds fault) ∧
    ∀ r, ofDeclarations ds = .ok r → r.Shows ds ∧
      ∀ ds', ds'.Perm ds → ∃ r', ofDeclarations ds' = .ok r' ∧ r'.attribute? = r.attribute? ∧
        r'.queryableAttributes = r.queryableAttributes ∧
          r'.requiredAttributes = r.requiredAttributes := by
  refine ⟨exists_registry_iff, fun fault => ?_, fun r made => ?_⟩
  · rw [ofDeclarations_eq_error_iff, Declaration.entries_eq_error_iff Declaration.lists_nil]
  · have shows := shows_of_ofDeclarations made
    refine ⟨shows, fun ds' perm => ?_⟩
    obtain ⟨r', made'⟩ := exists_registry_iff.mpr ((exists_registry_iff.mp ⟨r, made⟩).perm perm)
    have same := shows.declaration_eq (shows_of_ofDeclarations made') perm
    refine ⟨r', made', ?_, ?_, ?_⟩
    · funext name
      apply Option.ext
      intro d
      rw [attribute?_eq_some_iff, attribute?_eq_some_iff, same]
    · exact congrArg (fun f => Attribute.byName.filter fun a => (f a).queryable) same
    · exact congrArg (fun f => Attribute.byName.filter fun a => (f a).required) same

/-- Attributes may be declared in any order; of two declarations that offend, the first one
counts. -/
theorem ofDeclarations_accepts_reordered :
    let ds : List Declaration := [⟨"title", .keyword, false, true⟩,
      ⟨"modifiedAt", .date, true, false⟩, ⟨"createdAt", .date, false, false⟩,
      ⟨"mediaType", .text, true, false⟩,
      ⟨"id", .keyword, true, true⟩, ⟨"countryCode", .keyword, true, false⟩,
      ⟨"metadataLocation", .keyword, true, false⟩, ⟨"sourceLocation", .keyword, true, false⟩,
      ⟨"contents", .text, true, false⟩]
    (∃ r, ofDeclarations ds = .ok r ∧ r.Shows ds) ∧
      ofDeclarations (⟨"title", .date, true, true⟩ :: ⟨"colour", .text, true, true⟩ :: ds) =
        .error (.typeMismatch "title" "text or string") ∧
      ofDeclarations ds.tail = .error (.missing "title") := by
  intro ds
  have complete : Declaration.Complete ds := by
    have each : ∀ d ∈ ds, (d.name ∈ Attribute.dateNames → d.kind = .date) ∧
        (d.name ∉ Attribute.dateNames → d.kind = .text ∨ d.kind = .keyword) ∧
          (d.name = "id" → d.kind = .keyword ∧ d.required = true) := by decide
    refine ⟨by decide +kernel, fun d member => ?_⟩
    obtain ⟨date, other, identity⟩ := each d member
    exact ⟨date, other, identity⟩
  obtain ⟨r, made⟩ := (ofDeclarations_accepts ds).1.mpr complete
  refine ⟨⟨r, made, ((ofDeclarations_accepts ds).2.2 r made).1⟩, ?_, ?_⟩
  · refine ((ofDeclarations_accepts _).2.1 _).mpr (.offence (List.nil_append _).symm ?_ ?_)
    · exact Declaration.sound_nil _
    · exact .notText (by decide) (by decide) (by decide) rfl
  · rfl

end Registry

end RecordSearch
