import RecordSearch.Http.Service
import RecordSearch.Proofs.Http.Writes
import RecordSearch.Proofs.Store.Reached
import RecordSearch.Proofs.Text.Order
import RecordSearch.Proofs.Url.Address

/-!
# A search gives all locators or none

The locators of a search are those of all its hits, or else it fails for one of them.  Nothing else
is lost when every record lies under the standard base: its address is written as it is, so hits of
different identities have different locators, and a search by HTTP counts as many results as there
are hits.
-/

namespace RecordSearch

open RecordSearch.Text

namespace Locator

variable {l : Locator} {r : Record} {hits : List Record} {address : String}

/-- The text that is taken for the address of a record. -/
def value? (l : Locator) (r : Record) : Option String :=
  match l with
  | retrieve base => some (base ++ r.id)
  | stored name => r.textNamed name

/-- A record has an address. -/
def Locates (l : Locator) (r : Record) (address : String) : Prop :=
  ∃ value u, l.value? r = some value ∧ Url.parse value = .ok u ∧ u.text = address

inductive Corrupt (l : Locator) (r : Record) : Option String → Option Url.Fault → Prop where
  | missing {name : String} (stored : l = .stored name) (lacks : r.valueNamed name = none) :
      Corrupt l r none none
  | date {name : String} {at' : Time.Instant} (stored : l = .stored name)
      (held : r.valueNamed name = some (.date at')) : Corrupt l r none none
  | unreadable {value : String} {fault : Url.Fault} (taken : l.value? r = some value)
      (failed : Url.parse value = .error fault) : Corrupt l r (some value) (some fault)

/-- The outcome of a search: the set of the addresses of all hits, or a failure that names one of
those that have none. -/
structure Gathers (l : Locator) (hits : List Record)
    (outcome : Except Failure (List String)) : Prop where
  all : (∀ r ∈ hits, ∃ address, l.Locates r address) →
    ∃ locators, outcome = .ok locators ∧ Ascending locators ∧
      ∀ address, address ∈ locators ↔ ∃ r ∈ hits, l.Locates r address
  nothing : (∃ r ∈ hits, ∀ address, ¬ l.Locates r address) →
    ∃ r ∈ hits, ∃ value fault, l.Corrupt r value fault ∧
      outcome = .error (.corruptRecord r.id value fault)

theorem locate_of_none (missing : l.value? r = none) :
    l.locate r = .error (.corruptRecord r.id none none) := by
  cases l with
  | retrieve base => cases missing
  | stored name =>
      change r.textNamed name = none at missing
      simp only [locate, missing]

theorem locate_of_parse {value : String} {u : Url} (taken : l.value? r = some value)
    (parsed : Url.parse value = .ok u) : l.locate r = .ok u := by
  cases l with
  | retrieve base =>
      cases taken
      simp only [locate, parsed]
  | stored name =>
      change r.textNamed name = some value at taken
      simp only [locate, taken, parsed]

theorem locate_of_fault {value : String} {fault : Url.Fault} (taken : l.value? r = some value)
    (failed : Url.parse value = .error fault) :
    l.locate r = .error (.corruptRecord r.id (some value) (some fault)) := by
  cases l with
  | retrieve base =>
      cases taken
      simp only [locate, failed]
  | stored name =>
      change r.textNamed name = some value at taken
      simp only [locate, taken, failed]

theorem corrupt_of_value?_eq_none (missing : l.value? r = none) : l.Corrupt r none none := by
  cases l with
  | retrieve base => cases missing
  | stored name =>
      cases held : r.valueNamed name with
      | none => exact .missing rfl held
      | some v =>
          cases v with
          | date at' => exact .date rfl held
          | text s =>
              change r.textNamed name = none at missing
              obtain ⟨a, named, value⟩ := Option.bind_eq_some_iff.mp held
              simp [Record.textNamed, Record.text?, named, value] at missing

/-- A record has an address, or it is told what there is in place of one. -/
theorem locate_cases (l : Locator) (r : Record) :
    (∃ u, l.locate r = .ok u ∧ l.Locates r u.text) ∨
      ∃ value fault, l.Corrupt r value fault ∧
        l.locate r = .error (.corruptRecord r.id value fault) := by
  cases taken : l.value? r with
  | none => exact .inr ⟨none, none, corrupt_of_value?_eq_none taken, locate_of_none taken⟩
  | some value =>
      cases parsed : Url.parse value with
      | ok u => exact .inl ⟨u, locate_of_parse taken parsed, value, u, taken, parsed, rfl⟩
      | error fault =>
          exact .inr ⟨_, _, .unreadable taken parsed, locate_of_fault taken parsed⟩

theorem locates_iff : l.Locates r address ↔ ∃ u, l.locate r = .ok u ∧ u.text = address := by
  constructor
  · rintro ⟨value, u, taken, parsed, written⟩
    exact ⟨u, locate_of_parse taken parsed, written⟩
  · rintro ⟨u, located, rfl⟩
    rcases l.locate_cases r with ⟨u', located', locates⟩ | ⟨_, _, -, failed⟩
    · obtain rfl := Except.ok.inj (located.symm.trans located')
      exact locates
    · cases located.symm.trans failed

theorem corrupt_of_error {failure : Failure} (failed : l.locate r = .error failure) :
    ∃ value fault, l.Corrupt r value fault ∧ failure = .corruptRecord r.id value fault := by
  rcases l.locate_cases r with ⟨_, located, -⟩ | ⟨value, fault, corrupt, failed'⟩
  · cases failed.symm.trans located
  · exact ⟨value, fault, corrupt, Except.error.inj (failed.symm.trans failed')⟩

/-- The locators of some hits are gathered from all of them. -/
theorem gathers_locators (l : Locator) (hits : List Record) :
    l.Gathers hits (Search.locators l hits) := by
  have mapped : Search.locators l hits =
      (fun urls : List Url => textSet (urls.map Url.text)) <$> hits.mapM l.locate := rfl
  constructor
  · intro each
    have succeeds : Attempt.Succeeds (hits.mapM l.locate) :=
      Attempt.succeeds_mapM_iff.mpr fun r member => by
        obtain ⟨address, locates⟩ := each r member
        obtain ⟨u, located, -⟩ := locates_iff.mp locates
        exact ⟨u, located⟩
    obtain ⟨urls, found⟩ := succeeds
    rw [mapped, found]
    refine ⟨_, rfl, ascending_textSet _, fun address => ?_⟩
    rw [mem_textSet, List.mem_map]
    constructor
    · rintro ⟨u, member, written⟩
      obtain ⟨r, among, located⟩ := (Attempt.mem_of_mapM found).mp member
      exact ⟨r, among, locates_iff.mpr ⟨u, located, written⟩⟩
    · rintro ⟨r, among, locates⟩
      obtain ⟨u, located, written⟩ := locates_iff.mp locates
      exact ⟨u, (Attempt.mem_of_mapM found).mpr ⟨r, among, located⟩, written⟩
  · rintro ⟨r, among, nowhere⟩
    cases found : hits.mapM l.locate with
    | ok urls =>
        obtain ⟨u, located⟩ := Attempt.exists_ok_of_mapM found r among
        exact absurd (locates_iff.mpr ⟨u, located, rfl⟩) (nowhere u.text)
    | error failure =>
        obtain ⟨r', among', failed⟩ := Attempt.mapM_eq_error found
        obtain ⟨value, fault, corrupt, rfl⟩ := corrupt_of_error failed
        rw [mapped, found]
        exact ⟨r', among', value, fault, corrupt, rfl⟩

/-- The address of a record under the standard base is the base with the identity behind it. -/
theorem locates_standard_iff (proper : Admission.isIdentity r.id = true) :
    standard.Locates r address ↔ address = Url.retrieveBase ++ r.id := by
  simp only [Admission.isIdentity, Bool.and_eq_true, List.all_eq_true, Bool.or_eq_true] at proper
  obtain ⟨u, parsed, written⟩ := Url.parse_retrieve proper.2
  constructor
  · rintro ⟨value, u', taken, parsed', rfl⟩
    cases taken
    rw [← written, Except.ok.inj (parsed.symm.trans parsed')]
  · rintro rfl
    exact ⟨_, u, rfl, parsed, written⟩

theorem address_injective {id id' : String}
    (same : Url.retrieveBase ++ id = Url.retrieveBase ++ id') : id = id' := by
  apply String.toList_injective
  have texts := congrArg String.toList same
  rw [String.toList_append, String.toList_append] at texts
  exact List.append_cancel_left texts

/-- Hits of different identities have as many addresses under the standard base. -/
theorem Gathers.length_eq {outcome : Except Failure (List String)}
    (gathers : standard.Gathers hits outcome) (distinct : (hits.map Record.id).Nodup)
    (proper : ∀ r ∈ hits, Admission.isIdentity r.id = true) :
    ∃ locators, outcome = .ok locators ∧ Ascending locators ∧ locators.length = hits.length ∧
      ∀ address, address ∈ locators ↔ ∃ r ∈ hits, address = Url.retrieveBase ++ r.id := by
  obtain ⟨locators, same, ascending, members⟩ := gathers.all fun r member =>
    ⟨_, (locates_standard_iff (proper r member)).mpr rfl⟩
  have among (address : String) :
      address ∈ locators ↔ ∃ r ∈ hits, address = Url.retrieveBase ++ r.id := by
    rw [members]
    exact exists_congr fun r => and_congr_right fun member =>
      locates_standard_iff (proper r member)
  refine ⟨locators, same, ascending, ?_, among⟩
  have apart {s t : String} (before : Utf8.lt s t = true) : s ≠ t := by
    rintro rfl
    exact Utf8.lt_irrefl s before
  have once : locators.Nodup := List.Pairwise.imp apart ascending
  have addresses : (hits.map fun r => Url.retrieveBase ++ r.id).Nodup := by
    have made := distinct.map fun _ _ same => address_injective same
    rwa [List.map_map] at made
  have perm : locators.Perm (hits.map fun r => Url.retrieveBase ++ r.id) := by
    rw [List.perm_ext_iff_of_nodup once addresses]
    intro address
    rw [among, List.mem_map]
    exact exists_congr fun r => and_congr_right fun _ => eq_comm
  rw [perm.length_eq, List.length_map]

end Locator

namespace Search

variable {registry : Registry} {σ : Type} {store : Repository σ} {l : Locator} {q : String}
  {prepared : PreparedQuery} {s s' : σ}

theorem find_of_refused {failure : Failure}
    (refused : PreparedQuery.ofText registry q = .error failure) :
    find registry store l q s = (.error failure, s) := by
  simp only [find, records, refused]
  rfl

theorem find_of_fault {fault : StoreFault}
    (accepted : PreparedQuery.ofText registry q = .ok prepared)
    (failed : store.query prepared.query s = (.error fault, s')) :
    find registry store l q s = (.error (.queryExecution fault), s') := by
  simp only [find, records, accepted, failed]
  rfl

theorem find_of_hits {hits : List Record}
    (accepted : PreparedQuery.ofText registry q = .ok prepared)
    (found : store.query prepared.query s = (.ok hits, s')) :
    find registry store l q s = (locators l hits, s') := by
  simp only [find, records, accepted, found]
  rfl

end Search

namespace Services

open RecordSearch.Http

variable {s : Services} {r : Request} {q : String}

theorem respond_of_search (route : Route.ofRequest? r = some .search)
    (asked : queryOf s.config.limits.queryLength r = .ok q) (w : Surroundings) :
    s.respond w r = (answer (searchAnswer w.elapsed q) (s.find q).1, (s.find q).2) := by
  simp only [respond, route, search, asked]

theorem get?_searchAnswer (elapsed q : String) (locators : List String) :
    ∃ document, searchAnswer elapsed q locators = .document document ∧
      Json.get? "result_count" document = some (.nat locators.length) ∧
      Json.get? "results" document = some (.list (locators.map .text)) :=
  ⟨_, rfl, rfl, rfl⟩

end Services

/-- A query that is refused fails as it was refused, and a store that fails is told of as such.  Of
the hits of a query all locators are found or none is.  Under the standard base the locator of a
record is the base with its identity behind it, and a search by HTTP on a store that requests have
filled has one result for each hit, in ascending order, and counts them. -/
theorem find_gathers (registry : Registry) (q : String) :
    (∀ {σ : Type} (store : Repository σ) (l : Locator) (s : σ),
      (∀ failure, PreparedQuery.ofText registry q = .error failure →
        Search.find registry store l q s = (.error failure, s)) ∧
      ∀ prepared, PreparedQuery.ofText registry q = .ok prepared →
        (∀ fault s', store.query prepared.query s = (.error fault, s') →
          Search.find registry store l q s = (.error (.queryExecution fault), s')) ∧
        ∀ hits s', store.query prepared.query s = (.ok hits, s') →
          (Search.find registry store l q s).2 = s' ∧
            l.Gathers hits (Search.find registry store l q s).1) ∧
    (∀ r : Record, Admission.isIdentity r.id = true → ∀ address,
      Locator.standard.Locates r address ↔
        address = "http://localhost:8080/api/v1/retrieve/" ++ r.id) ∧
    ∀ (s : Services) (w : Surroundings) (r : Http.Request) (prepared : PreparedQuery),
      s.registry = registry → Store.Attached registry s.store → s.config.locator = .standard →
      Http.Route.ofRequest? r = some .search →
      Services.queryOf s.config.limits.queryLength r = .ok q →
      PreparedQuery.ofText registry q = .ok prepared →
      ∃ hits, Store.query prepared.query s.store = (.ok hits, s.store.reload) ∧
        ((∀ x ∈ hits, Admission.isIdentity x.id = true) →
          ∃ document locators, (s.find q).1 = .ok locators ∧
            (s.respond w r).1 = .document document ∧
            Json.get? "results" document = some (.list (locators.map .text)) ∧
            Json.get? "result_count" document = some (.nat hits.length) ∧
            Ascending locators ∧ locators.length = hits.length ∧
            ∀ address, address ∈ locators ↔
              ∃ x ∈ hits, address = "http://localhost:8080/api/v1/retrieve/" ++ x.id) := by
  refine ⟨fun store l s => ⟨fun failure => Search.find_of_refused,
    fun prepared accepted => ⟨fun fault s' => Search.find_of_fault accepted,
      fun hits s' found => ?_⟩⟩, fun r proper address => Locator.locates_standard_iff proper, ?_⟩
  · rw [Search.find_of_hits accepted found]
    exact ⟨rfl, l.gathers_locators hits⟩
  · rintro s w r prepared rfl attached standard route asked accepted
    obtain ⟨hits, found⟩ := attached.exists_hits prepared.query
    have asks : Store.repository.query prepared.query s.store = (.ok hits, s.store.reload) := found
    refine ⟨hits, found, fun proper => ?_⟩
    have short : ∀ x ∈ hits, x.id.utf8ByteSize ≤ longestKeyword := fun x member =>
      Admission.utf8ByteSize_of_isIdentity (proper x member)
    obtain ⟨locators, gathered, ascending, count, members⟩ :=
      (Locator.standard.gathers_locators hits).length_eq (attached.nodup_identities found short)
        proper
    have outcome : (s.find q).1 = .ok locators := by
      have told : (s.find q).1 =
          (Search.find s.registry Store.repository s.config.locator q s.store).1 := rfl
      rw [told, standard, Search.find_of_hits accepted asks, gathered]
    obtain ⟨document, answered, counted, results⟩ :=
      Services.get?_searchAnswer w.elapsed q locators
    rw [count] at counted
    refine ⟨document, locators, outcome, ?_, results, counted, ascending, count, members⟩
    rw [Services.respond_of_search route asked, outcome]
    exact answered

/-- A record that is found under the standard base and has no source to be found at. -/
theorem find_gathers_include :
    let s := (Store.save { id := "0123456789abcdefghijABCDEFGHIJ00" } (.inMemory .standard)).2
    let w : Surroundings := ⟨fun _ => .error ⟨"no such host", []⟩, fun _ => none, .ofSeconds 0, "0"⟩
    (Search.find .standard Store.repository (.stored "sourceLocation") "INCLUDE" s).1 =
        .error (.corruptRecord "0123456789abcdefghijABCDEFGHIJ00" none none) ∧
      ∃ document, ((⟨{}, .standard, s, none⟩ : Services).respond w
          { target := "/api/v1/search?q=INCLUDE" }).1 = .document document ∧
        Json.get? "results" document = some (.list
          [.text "http://localhost:8080/api/v1/retrieve/0123456789abcdefghijABCDEFGHIJ00"]) ∧
        Json.get? "result_count" document = some (.nat 1) := by
  intro s w
  have built : Record.Built .standard { id := "0123456789abcdefghijABCDEFGHIJ00" } :=
    ⟨"0123456789abcdefghijABCDEFGHIJ00", [], by decide⟩
  have attached : Store.Attached .standard s := by
    have proper : Write.Proper .standard (.save { id := "0123456789abcdefghijABCDEFGHIJ00" }) :=
      built
    exact (Store.Reachable.step (.fresh .memory) proper).attached
  have accepted : PreparedQuery.ofText .standard "INCLUDE" = .ok ⟨.all, .everything, .extended⟩ :=
    PreparedQuery.ofText_of_compiled (Dialect.means_extended Dialect.read_include)
      (fun name asks => by cases asks) rfl
  have hits : Store.query .all s =
      (.ok [{ id := "0123456789abcdefghijABCDEFGHIJ00" }], s.reload) := rfl
  obtain ⟨outcomes, -, answers⟩ := find_gathers .standard "INCLUDE"
  constructor
  · have nowhere : ∀ address, ¬ (Locator.stored "sourceLocation").Locates
        { id := "0123456789abcdefghijABCDEFGHIJ00" } address := by
      rintro address ⟨value, u, taken, -⟩
      cases taken
    obtain ⟨-, gathers⟩ :=
      ((outcomes Store.repository (.stored "sourceLocation") s).2 _ accepted).2 _ _ hits
    obtain ⟨r, member, value, fault, corrupt, told⟩ :=
      gathers.nothing ⟨_, List.mem_singleton_self _, nowhere⟩
    obtain rfl := List.mem_singleton.mp member
    cases corrupt with
    | missing | date => exact told
    | unreadable taken => cases taken
  · obtain ⟨found, same, tells⟩ := answers ⟨{}, .standard, s, none⟩ w
      { target := "/api/v1/search?q=INCLUDE" } _ rfl attached rfl (by decide +kernel)
      (by decide +kernel) accepted
    obtain rfl := Except.ok.inj (congrArg Prod.fst (same.symm.trans hits))
    obtain ⟨document, locators, -, answered, results, count, -, one, members⟩ :=
      tells (List.forall_mem_singleton.mpr (by decide))
    obtain ⟨address, rfl⟩ := List.length_eq_one_iff.mp one
    obtain ⟨r, member, rfl⟩ := (members address).mp (List.mem_singleton_self address)
    obtain rfl := List.mem_singleton.mp member
    exact ⟨document, answered, results, count⟩

end RecordSearch
