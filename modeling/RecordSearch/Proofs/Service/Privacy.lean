import RecordSearch.Proofs.Filter.Dependence
import RecordSearch.Proofs.Store.Search

/-!
# What may not be queried is not found out

Two stores whose records can be paired so that they agree on their identities and on all that may be
queried have the same hits for every query that is accepted.  Locators are made of identities, so
that they are the same too; only which of several hits without a locator is reported depends on the
order in which the hits are found.
-/

namespace RecordSearch

open RecordSearch.Text

structure Record.Alike (registry : Registry) (r r' : Record) : Prop where
  id : r.id = r'.id
  value : ∀ a, registry.queryable a = true → r.value a = r'.value a

/-- Records that can be paired with others that are alike. -/
def Record.Paired (registry : Registry) (contents others : List Record) : Prop :=
  ∃ paired, List.Forall₂ (Record.Alike registry) contents paired ∧ paired.Perm others

namespace PreparedQuery

variable {registry : Registry} {q : String} {p : PreparedQuery}

/-- A query that is accepted looks at what may be queried only. -/
theorem within_of_ofText (accepted : ofText registry q = .ok p) :
    p.query.Within fun a => registry.queryable a = true := by
  rcases Parsed.means_or_refused q with ⟨d, f, means⟩ | ⟨refusals, refused⟩
  · obtain ⟨-, -, compiled, offers⟩ := eq_of_ofText means accepted
    apply Query.within_ofFilter compiled
    intro a asks
    obtain ⟨b, same, queryable⟩ := offers a.name asks
    obtain rfl := Attribute.name_injective same
    exact queryable
  · rw [ofText_of_refused refused] at accepted
    cases accepted

theorem matches'_of_alike {r r' : Record} (accepted : ofText registry q = .ok p)
    (alike : r.Alike registry r') :
    p.query.matches' registry.kind (.ofRecord registry r) =
      p.query.matches' registry.kind (.ofRecord registry r') := by
  apply (within_of_ofText accepted).matches'_congr
  intro a queryable
  rw [Stored.field?_ofRecord, Stored.field?_ofRecord, alike.value a queryable]

/-- Alike records are hits together. -/
theorem perm_hits {contents others : List Record} (accepted : ofText registry q = .ok p)
    (paired : Record.Paired registry contents others) :
    ((contents.filter fun r =>
        p.query.matches' registry.kind (.ofRecord registry r)).map Record.id).Perm
      ((others.filter fun r =>
        p.query.matches' registry.kind (.ofRecord registry r)).map Record.id) := by
  obtain ⟨paired, alike, perm⟩ := paired
  have same : (contents.filter fun r =>
        p.query.matches' registry.kind (.ofRecord registry r)).map Record.id =
      (paired.filter fun r =>
        p.query.matches' registry.kind (.ofRecord registry r)).map Record.id := by
    clear perm
    induction alike with
    | nil => rfl
    | @cons r r' _ _ first _ inductionHypothesis =>
        rw [List.filter_cons, List.filter_cons, matches'_of_alike accepted first]
        split
        · rw [List.map_cons, List.map_cons, first.id, inductionHypothesis]
        · exact inductionHypothesis
  rw [same]
  exact (perm.filter _).map Record.id

end PreparedQuery

section Addresses

variable {base : String} {hits others : List Record}

def Locator.addressed (base id : String) : Except Failure Url :=
  (Locator.retrieve base).locate { id := id }

theorem Locator.addressed_eq_error {id : String} {failure : Failure}
    (failed : addressed base id = .error failure) :
    ∃ fault, Url.parse (base ++ id) = .error fault ∧
      failure = .corruptRecord id (some (base ++ id)) (some fault) := by
  unfold addressed locate at failed
  cases parsed : Url.parse (base ++ id) with
  | ok url => simp [parsed] at failed
  | error fault =>
      simp only [parsed] at failed
      cases failed
      exact ⟨fault, rfl, rfl⟩

theorem Search.locators_retrieve (base : String) (hits : List Record) :
    locators (.retrieve base) hits =
      (fun urls => textSet (urls.map Url.text)) <$>
        (hits.map Record.id).mapM (Locator.addressed base) := by
  rw [List.mapM_map]
  rfl

/-- Hits of the same identities have the same locators, unless different ones have none. -/
theorem Search.locators_of_same
    (same : ∀ id, id ∈ hits.map Record.id ↔ id ∈ others.map Record.id) :
    locators (.retrieve base) hits = locators (.retrieve base) others ∨
      ∃ id ∈ hits.map Record.id, ∃ id' ∈ hits.map Record.id, ∃ fault fault', id ≠ id' ∧
        Url.parse (base ++ id) = .error fault ∧ Url.parse (base ++ id') = .error fault' ∧
        locators (.retrieve base) hits =
          .error (.corruptRecord id (some (base ++ id)) (some fault)) ∧
        locators (.retrieve base) others =
          .error (.corruptRecord id' (some (base ++ id')) (some fault')) := by
  rw [locators_retrieve, locators_retrieve]
  cases first : (hits.map Record.id).mapM (Locator.addressed base) with
  | ok urls =>
      have located := Attempt.exists_ok_of_mapM first
      left
      cases second : (others.map Record.id).mapM (Locator.addressed base) with
      | ok urls' =>
          have members (url : Url) : url ∈ urls ↔ url ∈ urls' := by
            rw [Attempt.mem_of_mapM first, Attempt.mem_of_mapM second]
            exact exists_congr fun id => and_congr_left fun _ => same id
          have texts (text : String) : text ∈ urls.map Url.text ↔ text ∈ urls'.map Url.text := by
            simp only [List.mem_map, members]
          exact congrArg Except.ok (textSet_eq texts)
      | error failure' =>
          obtain ⟨id', among, failed⟩ := Attempt.mapM_eq_error second
          obtain ⟨url, found⟩ := located id' ((same id').mpr among)
          rw [failed] at found
          cases found
  | error failure =>
      obtain ⟨id, among, failed⟩ := Attempt.mapM_eq_error first
      obtain ⟨fault, unparsed, rfl⟩ := Locator.addressed_eq_error failed
      cases second : (others.map Record.id).mapM (Locator.addressed base) with
      | ok urls' =>
          obtain ⟨url, found⟩ := Attempt.exists_ok_of_mapM second id ((same id).mp among)
          rw [failed] at found
          cases found
      | error failure' =>
          obtain ⟨id', among', failed'⟩ := Attempt.mapM_eq_error second
          obtain ⟨fault', unparsed', rfl⟩ := Locator.addressed_eq_error failed'
          by_cases one : id = id'
          · subst one
            left
            rw [Except.error.inj (failed.symm.trans failed')]
          · right
            exact ⟨id, among, id', (same id').mpr among', fault, fault', one, unparsed, unparsed',
              rfl, rfl⟩

end Addresses

namespace Store

variable {registry : Registry} {s s' : Store} {contents others : List Record}

theorem Populated.find_include {l : Locator} (populated : Populated registry s contents) :
    (Search.find registry repository l "INCLUDE" s).1 = Search.locators l contents := by
  obtain ⟨rfl, settled⟩ := populated.eq_keeping
  rw [Search.find, records_include settled]
  rfl

/-- Two stores whose records are alike in pairs have the same hits for a query that is accepted,
one for one by identity.  Under any base their locators are the same, or else different hits have
no address, and each store reports one of these. -/
theorem answers_of_alike {q : String} {prepared : PreparedQuery}
    (populated : Populated registry s contents) (populated' : Populated registry s' others)
    (paired : Record.Paired registry contents others)
    (accepted : PreparedQuery.ofText registry q = .ok prepared) :
    ∃ hits hits', Search.records registry repository q s = (.ok hits, s) ∧
      Search.records registry repository q s' = (.ok hits', s') ∧
      (hits.map Record.id).Perm (hits'.map Record.id) ∧
      ∀ base, (Search.find registry repository (.retrieve base) q s).1 =
          (Search.find registry repository (.retrieve base) q s').1 ∨
        ∃ id ∈ hits.map Record.id, ∃ id' ∈ hits.map Record.id, ∃ fault fault', id ≠ id' ∧
          Url.parse (base ++ id) = .error fault ∧ Url.parse (base ++ id') = .error fault' ∧
          (Search.find registry repository (.retrieve base) q s).1 =
            .error (.corruptRecord id (some (base ++ id)) (some fault)) ∧
          (Search.find registry repository (.retrieve base) q s').1 =
            .error (.corruptRecord id' (some (base ++ id')) (some fault')) := by
  obtain ⟨rfl, settled⟩ := populated.eq_keeping
  obtain ⟨rfl, settled'⟩ := populated'.eq_keeping
  have first := records_keeping settled accepted
  have second := records_keeping settled' accepted
  have perm := PreparedQuery.perm_hits accepted paired
  refine ⟨_, _, first, second, perm, fun base => ?_⟩
  simp only [Search.find, first, second]
  exact Search.locators_of_same fun id => perm.mem_iff

/-- Two stores that tell other country codes, which may not be queried, and keep their records in
another order have the same hits for a media type and the same locators. -/
theorem answers_of_alike_secret :
    let q := "mediaType = 'text/plain'"
    ∃ (registry : Registry) (s s' : Store) (contents others : List Record)
      (prepared : PreparedQuery), registry.queryable .countryCode = false ∧
      Populated registry s contents ∧ Populated registry s' others ∧
      Record.Paired registry contents others ∧ ¬ contents.Perm others ∧
      PreparedQuery.ofText registry q = .ok prepared ∧
      ∃ hits hits', Search.records registry repository q s = (.ok hits, s) ∧
        Search.records registry repository q s' = (.ok hits', s') ∧
        (hits.map Record.id).Perm (hits'.map Record.id) ∧ hits.map Record.id = ["a", "c"] ∧
        (Search.find registry repository (.retrieve "http://h/") q s).1 =
          (Search.find registry repository (.retrieve "http://h/") q s').1 := by
  intro q
  let registry : Registry := { Registry.standard with queryable := fun a => a != .countryCode }
  let plain (id country : String) : Record :=
    { id := id, mediaType := some "text/plain", countryCode := some country }
  have built (id country : String) (named : Text.allBlank id = false) :
      Record.Built registry (plain id country) := by
    refine ⟨id, [.mediaType (some "text/plain"), .countryCode country],
      Record.finish_eq_ok_iff.mpr ⟨?_, rfl⟩⟩
    exact if_neg (Bool.eq_false_iff.mp named)
  have other : Record.Built registry { id := "b" } := ⟨"b", [], by rfl⟩
  let contents : List Record := [plain "a" "US", { id := "b" }, plain "c" "FR"]
  let others : List Record := [plain "c" "GB", { id := "b" }, plain "a" "FR"]
  have populated : Populated registry
      (Operation.trace Operation.run (contents.map .save) (inMemory registry)).2 contents := by
    apply populated_of_saves
    · exact List.forall_mem_cons.mpr ⟨built "a" "US" (by decide), List.forall_mem_cons.mpr
        ⟨other, List.forall_mem_singleton.mpr (built "c" "FR" (by decide))⟩⟩
    · clear built other
      decide +kernel +revert
  have populated' : Populated registry
      (Operation.trace Operation.run (others.map .save) (inMemory registry)).2 others := by
    clear populated
    apply populated_of_saves
    · exact List.forall_mem_cons.mpr ⟨built "c" "GB" (by decide), List.forall_mem_cons.mpr
        ⟨other, List.forall_mem_singleton.mpr (built "a" "FR" (by decide))⟩⟩
    · clear built other
      decide +kernel +revert
  have paired : Record.Paired registry contents others := by
    have alike (id country country' : String) :
        Record.Alike registry (plain id country) (plain id country') :=
      ⟨rfl, fun a queryable => by cases a <;> first | rfl | cases queryable⟩
    refine ⟨others.reverse, ?_, List.reverse_perm others⟩
    exact .cons (alike ..) (.cons ⟨rfl, fun _ _ => rfl⟩ (.cons (alike ..) .nil))
  let f : Filter := .test "mediaType" (.compare .eq (.text "text/plain"))
  have read : Dialect.extended.read q = .ok f := by
    have writable : Filter.Writable .extended f :=
      .test (Attribute.mediaType.isAttribute_name fun _ => by decide) trivial
    exact Dialect.read_of_written writable (by decide +kernel)
  have accepted : PreparedQuery.ofText registry q =
      .ok ⟨.term .mediaType "text/plain", f, .extended⟩ := by
    refine PreparedQuery.ofText_of_compiled (Dialect.means_extended read) (fun name asks => ?_) rfl
    cases show Filter.Asks name (.test "mediaType" _) from asks
    exact ⟨.mediaType, rfl, rfl⟩
  obtain ⟨hits, hits', first, second, perm, located⟩ :=
    answers_of_alike populated populated' paired accepted
  have found : hits.map Record.id = ["a", "c"] := by
    obtain ⟨same, settled⟩ := populated.eq_keeping
    rw [same, records_keeping settled accepted] at first
    obtain rfl := Except.ok.inj (Prod.mk.inj first).1
    decide +kernel
  refine ⟨registry, _, _, contents, others, _, rfl, populated, populated', paired, by decide,
    accepted, hits, hits', first, second, perm, found, (located "http://h/").resolve_right ?_⟩
  rintro ⟨id, among, id', -, fault, fault', -, refused, -⟩
  rw [found] at among
  have addressed : ∀ id ∈ ["a", "c"], (Url.parse ("http://h/" ++ id)).isOk := by decide +kernel
  have parsed := addressed id among
  rw [refused] at parsed
  cases parsed

/-- Of two hits without an address, the one that is found first is reported. -/
theorem answers_differ_in_order :
    ∃ s s' contents others, Populated Registry.standard s contents ∧
      Populated Registry.standard s' others ∧
      Record.Paired Registry.standard contents others ∧
      (∃ prepared, PreparedQuery.ofText Registry.standard "INCLUDE" = .ok prepared) ∧
      (Search.find Registry.standard repository (.retrieve "") "INCLUDE" s).1 ≠
        (Search.find Registry.standard repository (.retrieve "") "INCLUDE" s').1 := by
  have a : Record.Built Registry.standard { id := "a" } := ⟨"a", [], by decide⟩
  have b : Record.Built Registry.standard { id := "b" } := ⟨"b", [], by decide⟩
  have first : Populated Registry.standard _ [{ id := "a" }, { id := "b" }] :=
    populated_of_saves [{ id := "a" }, { id := "b" }]
      (List.forall_mem_cons.mpr ⟨a, List.forall_mem_singleton.mpr b⟩) rfl
  have second : Populated Registry.standard _ [{ id := "b" }, { id := "a" }] :=
    populated_of_saves [{ id := "b" }, { id := "a" }]
      (List.forall_mem_cons.mpr ⟨b, List.forall_mem_singleton.mpr a⟩) rfl
  refine ⟨_, _, _, _, first, second, ?_, ?_, ?_⟩
  · refine ⟨[{ id := "a" }, { id := "b" }], ?_, List.Perm.swap _ _ []⟩
    exact List.forall₂_same.mpr fun r _ => ⟨rfl, fun _ _ => rfl⟩
  · exact ⟨_, PreparedQuery.ofText_of_compiled
      (Dialect.means_extended Dialect.read_include) nofun rfl⟩
  · rw [first.find_include, second.find_include]
    have reports : Search.locators (.retrieve "") [{ id := "a" }, { id := "b" }] =
        .error (.corruptRecord "a" (some "a") (some .relative)) := by rfl
    have reports' : Search.locators (.retrieve "") [{ id := "b" }, { id := "a" }] =
        .error (.corruptRecord "b" (some "b") (some .relative)) := by rfl
    rw [reports, reports']
    decide

end Store

end RecordSearch
