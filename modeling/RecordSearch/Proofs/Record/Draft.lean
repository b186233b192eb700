import RecordSearch.Proofs.Record.Complete
import RecordSearch.Proofs.Registry.Views
import RecordSearch.Record.Draft

/-!
# Records that are filled in step by step

A record in the making says of each attribute what the last step that writes it wrote.  A step
writes the attributes that it is about and leaves all others as they are, and a step that fails
writes none.  So a record is told by its steps, whichever way its attributes are looked up.
-/

namespace RecordSearch

open RecordSearch.Text
open RecordSearch.Time (Instant)

namespace Record

variable {registry : Registry} {r : Record} {step : Step} {a : Attribute} {fault : RecordFault}

namespace Step

/-- What a step writes to an attribute: a value, or that there is none. -/
def written? (a : Attribute) : Step → Option (Option Value)
  | contents s => if a = .contents then some (some (.text s)) else none
  | sourceLocation s => if a = .sourceLocation then some (some (.text s)) else none
  | metadataLocation s => if a = .metadataLocation then some (some (.text s)) else none
  | title s => if a = .title then some (s.map .text) else none
  | countryCode s => if a = .countryCode then some (some (.text s)) else none
  | mediaType s => if a = .mediaType then some (s.map .text) else none
  | timestamps t =>
      if a = .createdAt ∨ a = .modifiedAt then some (some (.date t.dropFraction)) else none
  | text name s => if a.name = name ∧ a.isDate = false then some (some (.text s)) else none
  | date name t => if a.name = name ∧ a.isDate = true then some (some (.date t)) else none

inductive Fails : Step → RecordFault → Prop
  | unknownText {name : String} (unknown : name ∉ Attribute.names) (s : String) :
      Fails (.text name s) (.unknownAttribute name)
  | unknownDate {name : String} (unknown : name ∉ Attribute.names) (t : Instant) :
      Fails (.date name t) (.unknownAttribute name)
  | text {a : Attribute} (isDate : a.isDate = true) (s : String) :
      Fails (.text a.name s) (.wrongValueType a.name "text")
  | date {a : Attribute} (isText : a.isDate = false) (t : Instant) :
      Fails (.date a.name t) (.wrongValueType a.name "date")

theorem Fails.apply (fails : step.Fails fault) (r : Record) : step.apply r = .error fault := by
  cases fails with
  | unknownText unknown | unknownDate unknown =>
      simp [Step.apply, setText, setDate, Attribute.ofName?_eq_none_iff.mpr unknown]
  | @text a isDate s =>
      rw [Step.apply, setText, Attribute.ofName?_name]
      cases a <;> simp [Attribute.isDate] at isDate <;> rfl
  | @date a isText t =>
      rw [Step.apply, setDate, Attribute.ofName?_name]
      cases a <;> simp [Attribute.isDate] at isText <;> rfl

theorem Fails.applyOrKeep (fails : step.Fails fault) (r : Record) : step.applyOrKeep r = r := by
  rw [Step.applyOrKeep, fails.apply]

theorem Fails.written? (fails : step.Fails fault) (a : Attribute) : step.written? a = none := by
  have named {name : String} (unknown : name ∉ Attribute.names) : a.name ≠ name :=
    fun same => unknown (Attribute.mem_names_iff.mpr ⟨a, same⟩)
  cases fails with
  | unknownText unknown | unknownDate unknown => simp [Step.written?, named unknown]
  | text type | date type =>
      refine if_neg fun ⟨same, other⟩ => ?_
      rw [Attribute.name_injective same, type] at other
      cases other

theorem text_cases (name s : String) :
    (∃ fault, (text name s).Fails fault) ∨ ∃ a : Attribute, a.name = name ∧ a.isDate = false := by
  by_cases known : name ∈ Attribute.names
  · obtain ⟨a, rfl⟩ := Attribute.mem_names_iff.mp known
    cases type : a.isDate with
    | false => exact .inr ⟨a, rfl, type⟩
    | true => exact .inl ⟨_, .text type s⟩
  · exact .inl ⟨_, .unknownText known s⟩

theorem date_cases (name : String) (t : Instant) :
    (∃ fault, (date name t).Fails fault) ∨ ∃ a : Attribute, a.name = name ∧ a.isDate = true := by
  by_cases known : name ∈ Attribute.names
  · obtain ⟨a, rfl⟩ := Attribute.mem_names_iff.mp known
    cases type : a.isDate with
    | true => exact .inr ⟨a, rfl, type⟩
    | false => exact .inl ⟨_, .date type t⟩
  · exact .inl ⟨_, .unknownDate known t⟩

/-- Only steps that set an attribute by its name fail, and only for the name. -/
theorem apply_eq_error_iff : step.apply r = .error fault ↔ step.Fails fault := by
  refine ⟨fun failed => ?_, fun fails => fails.apply r⟩
  have unique {fault' : RecordFault} (fails : step.Fails fault') : step.Fails fault := by
    rw [fails.apply r] at failed
    cases failed
    exact fails
  cases step with
  | text name s =>
      rcases text_cases name s with ⟨fault', fails⟩ | ⟨a, rfl, isText⟩
      · exact unique fails
      · obtain ⟨r', set, -⟩ := setText_name r isText s
        rw [apply, set] at failed
        cases failed
  | date name t =>
      rcases date_cases name t with ⟨fault', fails⟩ | ⟨a, rfl, isDate⟩
      · exact unique fails
      · obtain ⟨r', set, -⟩ := setDate_name r isDate t
        rw [apply, set] at failed
        cases failed
  | _ => cases failed

theorem value_applyOrKeep (r : Record) (step : Step) (a : Attribute) :
    (step.applyOrKeep r).value a = (step.written? a).getD (r.value a) := by
  cases step with
  | text name s =>
      rcases text_cases name s with ⟨fault, fails⟩ | ⟨b, rfl, isText⟩
      · rw [fails.applyOrKeep, fails.written?, Option.getD_none]
      · obtain ⟨r', set, values⟩ := setText_name r isText s
        rw [applyOrKeep, apply, set, written?]
        refine (values a).trans ?_
        by_cases same : a = b <;> simp [same, isText]
  | date name t =>
      rcases date_cases name t with ⟨fault, fails⟩ | ⟨b, rfl, isDate⟩
      · rw [fails.applyOrKeep, fails.written?, Option.getD_none]
      · obtain ⟨r', set, values⟩ := setDate_name r isDate t
        rw [applyOrKeep, apply, set, written?]
        refine (values a).trans ?_
        by_cases same : a = b <;> simp [same, isDate]
  | _ => cases a <;> rfl

end Step

/-- After any steps, an attribute has the value that was written to it last. -/
theorem value_foldl_applyOrKeep (r : Record) (steps : List Step) (a : Attribute) :
    (steps.foldl Step.applyOrKeep r).value a =
      (steps.filterMap (Step.written? a)).getLast?.getD (r.value a) := by
  induction steps generalizing r with
  | nil => rfl
  | cons step steps inductionHypothesis =>
      rw [List.foldl_cons, inductionHypothesis, Step.value_applyOrKeep, List.filterMap_cons]
      cases step.written? a with
      | none => rfl
      | some v => simp [List.getLast?_cons]

structure Agrees (r : Record) : Prop where
  id : r.valueNamed "id" = some (.text r.id)
  contents : r.valueNamed "contents" = r.contents.map .text
  sourceLocation : r.valueNamed "sourceLocation" = r.sourceLocation.map .text
  metadataLocation : r.valueNamed "metadataLocation" = r.metadataLocation.map .text
  title : r.valueNamed "title" = r.title.map .text
  countryCode : r.valueNamed "countryCode" = r.countryCode.map .text
  createdAt : r.valueNamed "createdAt" = r.createdAt.map .date
  modifiedAt : r.valueNamed "modifiedAt" = r.modifiedAt.map .date
  mediaType : r.valueNamed "mediaType" = r.mediaType.map .text
  unknown : ∀ name, name ∉ Attribute.names → r.valueNamed name = none
  text : ∀ name s, r.textNamed name = some s ↔ r.valueNamed name = some (.text s)

@[simp]
theorem valueNamed_name (r : Record) (a : Attribute) : r.valueNamed a.name = r.value a := by
  rw [valueNamed, Attribute.ofName?_name, Option.bind_some]

theorem agrees (r : Record) : r.Agrees where
  id := rfl
  contents := rfl
  sourceLocation := rfl
  metadataLocation := rfl
  title := rfl
  countryCode := rfl
  createdAt := rfl
  modifiedAt := rfl
  mediaType := rfl
  unknown name unknown := by
    rw [valueNamed, Attribute.ofName?_eq_none_iff.mpr unknown, Option.bind_none]
  text name s := by
    rw [textNamed, valueNamed]
    cases Attribute.ofName? name with
    | none => simp
    | some a =>
        rw [Option.bind_some, Option.bind_some, text?]
        rcases r.value a with _ | v
        · simp
        · cases v <;> simp

inductive Finishes (registry : Registry) (r : Record) : Except RecordFault Record → Prop
  | emptyIdentity (blank : ∀ c ∈ r.id.toList, isBlank c = true) :
      Finishes registry r (.error .emptyIdentity)
  | missingRequired {names : List String} (named : ∃ c ∈ r.id.toList, isBlank c = false)
      (filled : names ≠ []) (ascending : Ascending names)
      (missing : ∀ name, name ∈ names ↔
        ∃ a, a.name = name ∧ registry.required a = true ∧ r.valueNamed name = none) :
      Finishes registry r (.error (.missingRequired r.id names))
  | complete (named : ∃ c ∈ r.id.toList, isBlank c = false)
      (held : ∀ a, registry.required a = true → r.valueNamed a.name ≠ none) :
      Finishes registry r (.ok r)

theorem allBlank_eq_false_iff {s : String} :
    allBlank s = false ↔ ∃ c ∈ s.toList, isBlank c = false := by
  simp [allBlank]

theorem ascending_lacking (registry : Registry) (r : Record) : Ascending (r.lacking registry) := by
  rw [lacking, Registry.requiredAttributes, List.filter_filter]
  exact Attribute.ascending_byName _

theorem mem_lacking_iff {name : String} : name ∈ r.lacking registry ↔
    ∃ a, a.name = name ∧ registry.required a = true ∧ r.valueNamed name = none := by
  simp only [lacking, Registry.requiredAttributes, List.mem_map, List.mem_filter,
    Option.isNone_iff_eq_none]
  constructor
  · rintro ⟨a, ⟨⟨-, required⟩, absent⟩, rfl⟩
    exact ⟨a, rfl, required, (r.valueNamed_name a).trans absent⟩
  · rintro ⟨a, rfl, required, absent⟩
    exact ⟨a, ⟨⟨a.mem_byName, required⟩, (r.valueNamed_name a).symm.trans absent⟩, rfl⟩

theorem finishes_finish (registry : Registry) (r : Record) :
    Finishes registry r (r.finish registry) := by
  unfold finish fault?
  cases blank : allBlank r.id with
  | true => exact .emptyIdentity (List.all_eq_true.mp blank)
  | false =>
      have named := allBlank_eq_false_iff.mp blank
      have missing := @mem_lacking_iff registry r
      have ascending := ascending_lacking registry r
      cases names : r.lacking registry with
      | nil =>
          refine .complete named fun a required absent => ?_
          have member := missing.mpr ⟨a, rfl, required, absent⟩
          rw [names] at member
          cases member
      | cons name others =>
          rw [names] at ascending
          refine .missingRequired named (List.cons_ne_nil _ _) ascending fun name => ?_
          rw [← names]
          exact missing

theorem finish_eq_iff {outcome : Except RecordFault Record} :
    r.finish registry = outcome ↔ Finishes registry r outcome := by
  refine ⟨fun same => same ▸ finishes_finish registry r, fun finishes => ?_⟩
  unfold finish fault?
  cases finishes with
  | emptyIdentity blank => simp [allBlank, List.all_eq_true.mpr blank]
  | @missingRequired names named filled ascending missing =>
      have same : r.lacking registry = names := by
        rw [ascending.eq_textSet fun name => (missing name).trans mem_lacking_iff.symm]
        exact (ascending_lacking registry r).eq_textSet fun _ => Iff.rfl
      rw [allBlank_eq_false_iff.mpr named, same]
      cases names with
      | nil => exact absurd rfl filled
      | cons name others => rfl
  | complete named held =>
      have none : r.lacking registry = [] := by
        refine List.eq_nil_iff_forall_not_mem.mpr fun name member => ?_
        obtain ⟨a, rfl, required, absent⟩ := mem_lacking_iff.mp member
        exact held a required absent
      rw [allBlank_eq_false_iff.mpr named, none]
      rfl

/-- A record in the making is a map from attributes to the values that were written last. All ways
to look an attribute up agree, no step changes an attribute that it does not write, steps that set
an attribute by its name fail for unknown names and values of the wrong type only, and the record is
done unless its identity is blank or a required attribute has no value. -/
theorem ofSteps_keeps_last (registry : Registry) (id : String) (steps : List Step) :
    (∀ a : Attribute, (ofSteps id steps).valueNamed a.name =
      (steps.filterMap (Step.written? a)).getLast?.getD
        (if a = .id then some (.text id) else none)) ∧
    (ofSteps id steps).Agrees ∧
    (∀ (r : Record) (step : Step) (a : Attribute), step.written? a = none →
      (step.applyOrKeep r).value a = r.value a) ∧
    (∀ (r : Record) (step : Step) (fault : RecordFault),
      (step.apply r = .error fault ↔ step.Fails fault) ∧
      (step.Fails fault → step.applyOrKeep r = r ∧ ∀ a, step.written? a = none)) ∧
    ∀ outcome, (ofSteps id steps).finish registry = outcome ↔
      Finishes registry (ofSteps id steps) outcome := by
  refine ⟨fun a => ?_, agrees _, fun r step a unwritten => ?_, fun r step fault => ?_,
    fun outcome => finish_eq_iff⟩
  · have blank : (blank id).value a = if a = .id then some (.text id) else none := by
      cases a <;> rfl
    rw [valueNamed_name, ofSteps, value_foldl_applyOrKeep, blank]
  · rw [Step.value_applyOrKeep, unwritten, Option.getD_none]
  · exact ⟨Step.apply_eq_error_iff, fun fails => ⟨fails.applyOrKeep r, fails.written?⟩⟩

/-- A step with an unknown name is passed over, a title that is cleared is missing, and the
identity that was written last stands in the fault. -/
theorem ofSteps_keeps_last_cleared :
    let registry : Registry :=
      { Registry.standard with
        required := fun a => a == .id || a == .title || a == .contents
        id_required := rfl }
    let steps : List Step :=
      [.title (some "b"), .text "id" "c", .text "colour" "d", .title none, .countryCode "NL"]
    (ofSteps "a" steps).valueNamed "id" = some (.text "c") ∧
      (ofSteps "a" steps).valueNamed "title" = none ∧
      ((Step.countryCode "US").applyOrKeep (ofSteps "a" steps)).value .title = none ∧
      (Step.text "createdAt" "e").applyOrKeep (ofSteps "a" steps) = ofSteps "a" steps ∧
      (ofSteps "a" steps).finish registry =
        .error (.missingRequired "c" ["contents", "title"]) := by
  intro registry steps
  obtain ⟨values, -, frame, fails, finish⟩ := ofSteps_keeps_last registry "a" steps
  have failing : (Step.text "createdAt" "e").Fails (.wrongValueType "createdAt" "text") :=
    .text (a := .createdAt) rfl "e"
  refine ⟨values .id, values .title, (frame _ _ .title rfl).trans (values .title),
    ((fails _ _ _).2 failing).1, (finish _).mpr (.missingRequired ?_ ?_ ?_ ?_)⟩
  · exact ⟨'c', by decide, by decide⟩
  · exact List.cons_ne_nil _ _
  · exact List.pairwise_pair.mpr (by decide)
  · intro name
    rw [List.mem_cons, List.mem_singleton]
    constructor
    · rintro (rfl | rfl)
      · exact ⟨.contents, rfl, rfl, rfl⟩
      · exact ⟨.title, rfl, rfl, rfl⟩
    · rintro ⟨a, rfl, required, absent⟩
      cases a with
      | contents => exact .inl rfl
      | title => exact .inr rfl
      | id => cases absent
      | _ => cases required

end Record

end RecordSearch
