import RecordSearch.Attribute
import RecordSearch.Text.Quoted
import RecordSearch.Text.Order

/-!
The registry: which attributes may be queried, which are required, and of what kind each one is.

A registry is made from a list of declarations that names every attribute once.  The proofs in it
say what the list was checked for: dates and only dates are of the kind `date`, and identities are
required keywords.
-/

namespace RecordSearch

structure Declaration where
  name : String
  kind : Kind
  queryable : Bool := true
  required : Bool := false
  deriving DecidableEq, Repr

inductive RegistryFault where
  | duplicate (name : String)
  | unknown (name : String)
  | missing (name : String)
  | typeMismatch (name expected : String)
  | invalidIdentity
  deriving DecidableEq, Repr

def RegistryFault.message : RegistryFault → String
  | duplicate name => "attribute '" ++ name ++ "' is declared more than once"
  | unknown name => "attribute '" ++ name ++ "' cannot be populated by the write pipeline"
  | missing name => "attribute '" ++ name ++ "' is missing from the registry"
  | typeMismatch name expected =>
    "attribute '" ++ name ++ "' must be declared as " ++ Text.Quoted.report expected
  | invalidIdentity => "the identity attribute must be a required string"

structure Entry where
  attr : Attribute
  kind : Kind
  queryable : Bool
  required : Bool
  kind_date : kind = .date ↔ attr.isDate = true
  identity : attr = .id → kind = .keyword ∧ required = true

structure Registry where
  /-- The attributes in the order of their declarations. -/
  order : List Attribute
  kind : Attribute → Kind
  queryable : Attribute → Bool
  required : Attribute → Bool
  order_nodup : order.Nodup
  mem_order : ∀ a, a ∈ order
  kind_date : ∀ a, kind a = .date ↔ a.isDate = true
  id_keyword : kind .id = .keyword
  id_required : required .id = true

namespace Declaration

/-- The entry of a declaration of an attribute, if it suits the attribute. -/
def entry (d : Declaration) (a : Attribute) : Except RegistryFault Entry :=
  if kind_date : d.kind = .date ↔ a.isDate = true then
    if identity : a = .id → d.kind = .keyword ∧ d.required = true then
      .ok ⟨a, d.kind, d.queryable, d.required, kind_date, identity⟩
    else .error .invalidIdentity
  else .error (.typeMismatch d.name (if a.isDate then "date" else "text or string"))

/-- The entries of a list of declarations, when `seen` are declared already. The first fault in
the order of the list counts, and of one declaration's faults the first of: unknown name, name
declared twice, unsuitable kind, unsuitable identity. -/
def entries (seen : List Attribute) : List Declaration → Except RegistryFault (List Entry)
  | [] =>
    match Attribute.list.find? (· ∉ seen) with
    | some a => .error (.missing a.name)
    | none => .ok []
  | d :: rest =>
    match Attribute.ofName? d.name with
    | none => .error (.unknown d.name)
    | some a =>
      if a ∈ seen then .error (.duplicate d.name)
      else
        match d.entry a with
        | .error fault => .error fault
        | .ok entry =>
          match entries (a :: seen) rest with
          | .error fault => .error fault
          | .ok others => .ok (entry :: others)

theorem attr_of_entry {d : Declaration} {a : Attribute} {e : Entry} (h : d.entry a = .ok e) :
    e.attr = a := by
  unfold entry at h
  split at h
  · split at h
    · cases h; rfl
    · cases h
  · cases h

theorem entries_spec {seen : List Attribute} {ds : List Declaration} {es : List Entry}
    (h : entries seen ds = .ok es) :
    (es.map Entry.attr).Nodup ∧ (∀ a ∈ es.map Entry.attr, a ∉ seen) ∧
      ∀ a, a ∈ seen ∨ a ∈ es.map Entry.attr := by
  induction ds generalizing seen es with
  | nil =>
    unfold entries at h
    split at h
    · cases h
    · next none_found =>
      cases h
      refine ⟨List.nodup_nil, by simp, fun a => .inl ?_⟩
      have := List.find?_eq_none.mp none_found a (Attribute.mem_list a)
      simpa using this
  | cons d ds inductionHypothesis =>
    unfold entries at h
    split at h
    · cases h
    · next a found =>
      split at h
      · cases h
      · next fresh =>
        split at h
        · cases h
        · next e entry_eq =>
          split at h
          · cases h
          · next others others_eq =>
            cases h
            obtain ⟨nodup, apart, complete⟩ := inductionHypothesis others_eq
            have attr_eq := attr_of_entry entry_eq
            simp only [List.map_cons, attr_eq, List.nodup_cons]
            refine ⟨⟨fun member => apart a member (by simp), nodup⟩, ?_, fun b => ?_⟩
            · intro b member
              rcases List.mem_cons.mp member with rfl | later
              · exact fresh
              · exact fun inSeen => apart b later (List.mem_cons_of_mem _ inSeen)
            · rcases complete b with inSeen | later
              · rcases List.mem_cons.mp inSeen with rfl | before
                · exact .inr (by simp)
                · exact .inl before
              · exact .inr (List.mem_cons_of_mem _ later)

end Declaration

namespace Entry

def find? (es : List Entry) (a : Attribute) : Option Entry := es.find? (·.attr == a)

theorem attr_of_find? {es : List Entry} {a : Attribute} {e : Entry} (h : find? es a = some e) :
    e.attr = a := by
  simpa using List.find?_some h

end Entry

namespace Registry

def ofEntries (es : List Entry) (nodup : (es.map Entry.attr).Nodup)
    (complete : ∀ a, a ∈ es.map Entry.attr) : Registry where
  order := es.map Entry.attr
  kind a := ((Entry.find? es a).map Entry.kind).getD a.standardKind
  queryable a := ((Entry.find? es a).map Entry.queryable).getD false
  required a := ((Entry.find? es a).map Entry.required).getD (a == .id)
  order_nodup := nodup
  mem_order := complete
  kind_date a := by
    cases h : Entry.find? es a with
    | none => cases a <;> simp [Attribute.standardKind, Attribute.isDate]
    | some e =>
      have := e.kind_date
      rw [Entry.attr_of_find? h] at this
      simpa using this
  id_keyword := by
    cases h : Entry.find? es .id with
    | none => rfl
    | some e => simpa using (e.identity (Entry.attr_of_find? h)).1
  id_required := by
    cases h : Entry.find? es .id with
    | none => rfl
    | some e => simpa using (e.identity (Entry.attr_of_find? h)).2

def ofDeclarations (ds : List Declaration) : Except RegistryFault Registry :=
  match h : Declaration.entries [] ds with
  | .error fault => .error fault
  | .ok es =>
    .ok (ofEntries es (Declaration.entries_spec h).1
      fun a => ((Declaration.entries_spec h).2.2 a).resolve_left (by simp))

/-- Every attribute with its standard kind; all may be queried, and only identities are
required. -/
def standard : Registry where
  order := Attribute.list
  kind := Attribute.standardKind
  queryable _ := true
  required a := a == .id
  order_nodup := by decide
  mem_order := Attribute.mem_list
  kind_date a := by cases a <;> decide
  id_keyword := rfl
  id_required := rfl

def attribute? (r : Registry) (name : String) : Option Declaration :=
  (Attribute.ofName? name).map fun a => ⟨name, r.kind a, r.queryable a, r.required a⟩

def isQueryable (r : Registry) (name : String) : Bool :=
  ((Attribute.ofName? name).map r.queryable).getD false

def queryableAttributes (r : Registry) : List Attribute := Attribute.byName.filter r.queryable

def requiredAttributes (r : Registry) : List Attribute := Attribute.byName.filter r.required

/-- The set of those names of a list that may not be queried. -/
def unsupported (r : Registry) (names : List String) : List String :=
  Text.textSet (names.filter fun name => !r.isQueryable name)

/-- The layout of an index: each attribute with its kind, in the order of the declarations. -/
def layout (r : Registry) : List (Attribute × Kind) := r.order.map fun a => (a, r.kind a)

end Registry

end RecordSearch
