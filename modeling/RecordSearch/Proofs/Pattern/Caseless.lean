import RecordSearch.Proofs.Pattern.Like
import RecordSearch.Proofs.Pattern.Size
import RecordSearch.Proofs.Store.Identity
import RecordSearch.Proofs.Text.Case
import RecordSearch.Proofs.Text.Words

/-!
# Ignoring case

To ignore case is meant to find more.  An item that ignores case stands for the two cases of its
letter, and so for the letter itself unless both cases are other letters.  Of all letters this is so
for the title letters, and a pattern finds no less without regard to case exactly if it has none of
them.
-/

namespace RecordSearch

open RecordSearch.Text (titleLetters)

namespace Pattern

variable {p p' : Pattern} {item : Item} {c : Char} {s : List Char} {text : String}

structure Item.Within (item item' : Item) : Prop where
  run : item = .run ↔ item' = .run
  admits : ∀ c, item.admits c = true → item'.admits c = true

theorem Matches.mono (within : List.Forall₂ Item.Within p p') (stands : Matches p s) :
    Matches p' s := by
  induction stands generalizing p' with
  | nil =>
      cases within
      exact .nil
  | single other admitted _ inductionHypothesis =>
      cases within with
      | cons first others =>
          exact .single (first.run.not.mp other) (first.admits _ admitted)
            (inductionHypothesis others)
  | skip _ inductionHypothesis =>
      cases within with
      | cons first others =>
          obtain rfl := first.run.mp rfl
          exact .skip (inductionHypothesis others)
  | more admitted _ inductionHypothesis =>
      cases within with
      | cons first others =>
          obtain rfl := first.run.mp rfl
          exact .more admitted (inductionHypothesis (.cons first others))

theorem length_singles_le (stands : Matches p s) : (singles p).length ≤ s.length := by
  induction stands with
  | nil => exact Nat.le_refl 0
  | single other _ _ inductionHypothesis =>
      rw [singles_cons other]
      exact Nat.succ_le_succ inductionHypothesis
  | skip _ inductionHypothesis => exact inductionHypothesis
  | more _ _ inductionHypothesis => exact Nat.le_succ_of_le inductionHypothesis

/-- A value without a character to spare gives one to each item in turn. -/
theorem forall₂_singles (stands : Matches p s) (exact' : (singles p).length = s.length) :
    List.Forall₂ (fun item c => Item.admits item c = true) (singles p) s := by
  induction stands with
  | nil => exact .nil
  | single other admitted _ inductionHypothesis =>
      rw [singles_cons other] at exact' ⊢
      exact .cons admitted (inductionHypothesis (Nat.succ.inj exact'))
  | skip _ inductionHypothesis => exact inductionHypothesis exact'
  | more _ later _ =>
      have bounded := length_singles_le later
      rw [List.length_cons] at exact'
      exact absurd (exact' ▸ bounded) (Nat.not_succ_le_self _)

/-- A title letter is the one letter that is no case of its own. -/
theorem admits_bothCases_iff : (bothCases c).admits c = true ↔ c ∉ titleLetters := by
  rw [Text.mem_titleLetters_iff, bothCases]
  split
  · next l u small capital =>
      simp only [small, capital, List.cons.injEq, and_true]
      by_cases same : l = u
      · rw [if_pos same]
        simp [Item.admits, same]
      · rw [if_neg same]
        simp only [Item.admits, Bool.or_eq_true, beq_iff_eq]
        constructor
        · rintro either ⟨l, u, rfl, rfl, -, notSmall, notCapital⟩
          exact either.elim notSmall notCapital
        · intro none
          by_contra other
          rw [not_or] at other
          exact none ⟨l, u, rfl, rfl, same, other⟩
  · next other =>
      simp only [Item.admits, beq_self_eq_true, true_iff, not_exists]
      rintro l u ⟨small, capital, -⟩
      exact other l u small capital

theorem likeItem_eq_run_iff {ignoreCase : Bool} : likeItem ignoreCase c = .run ↔ c = '%' := by
  have char_ne (d : Char) : Item.char d ≠ .run := Item.noConfusion
  by_cases many : c = '%'
  · simp [likeItem, many]
  · have bothCases_ne : bothCases c ≠ .run := by
      rw [bothCases]
      split
      · split
        · exact char_ne _
        · exact Item.noConfusion
      · exact char_ne c
    rw [likeItem, if_neg many]
    simp only [many, iff_false]
    split_ifs
    · exact not_false
    · exact bothCases_ne
    · exact not_false

/-- Without regard to case, an item stands for all that it stands for otherwise, and perhaps more,
unless it is for a title letter. -/
theorem within_likeItem (other : c ∉ titleLetters) :
    (likeItem false c).Within (likeItem true c) where
  run := by rw [likeItem_eq_run_iff, likeItem_eq_run_iff]
  admits d admitted := by
    by_cases many : c = '%'
    · simpa [likeItem, many] using admitted
    by_cases one : c = '_'
    · simpa [likeItem, one] using admitted
    rw [likeItem_of_case many one] at admitted
    rw [beq_iff_eq.mp admitted, likeItem, if_neg many, if_neg one]
    split_ifs
    · exact admits_bothCases_iff.mpr other
    · exact beq_self_eq_true c

theorem Matches.ignoreCase (other : ∀ c ∈ text.toList, c ∉ titleLetters)
    (stands : Matches (ofLike false text) s) : Matches (ofLike true text) s := by
  refine stands.mono ?_
  rw [ofLike, ofLike, List.forall₂_map_left_iff, List.forall₂_map_right_iff, List.forall₂_same]
  exact fun c member => within_likeItem (other c member)

theorem admits_likeItem_self (many : c ≠ '%') : (likeItem false c).admits c = true := by
  by_cases one : c = '_'
  · rw [one]
    rfl
  · rw [likeItem_of_case many one]
    exact beq_self_eq_true c

theorem matches_ofLike_self (oneLine : '\n' ∉ text.toList) :
    Matches (ofLike false text) text.toList := by
  rw [ofLike]
  revert oneLine
  induction text.toList with
  | nil => exact fun _ => .nil
  | cons c rest inductionHypothesis =>
      intro oneLine
      rw [List.mem_cons, not_or] at oneLine
      have later := inductionHypothesis oneLine.2
      rw [List.map_cons]
      by_cases many : c = '%'
      · rw [likeItem_eq_run_iff.mpr many]
        exact .more (bne_iff_ne.mpr (Ne.symm oneLine.1)) (.skip later)
      · exact .single (likeItem_eq_run_iff.not.mpr many) (admits_likeItem_self many) later

/-- The signs of a pattern that stand for one character each. -/
def letters (text : String) : List Char := text.toList.filter (· != '%')

theorem singles_ofLike (ignoreCase : Bool) (text : String) :
    singles (ofLike ignoreCase text) = (letters text).map (likeItem ignoreCase) := by
  rw [singles, ofLike, letters, List.filter_map]
  congr 2
  funext c
  rw [Function.comp_apply, Bool.eq_iff_iff, bne_iff_ne, bne_iff_ne, ne_eq, likeItem_eq_run_iff]

/-- With no character for any `%`, a pattern stands for its other signs. -/
theorem matches_ofLike_letters : Matches (ofLike false text) (letters text) := by
  rw [ofLike, letters]
  induction text.toList with
  | nil => exact .nil
  | cons c rest inductionHypothesis =>
      rw [List.map_cons]
      by_cases many : c = '%'
      · rw [likeItem_eq_run_iff.mpr many, List.filter_cons_of_neg (by simp [many])]
        exact .skip inductionHypothesis
      · rw [List.filter_cons_of_pos (p := (· != '%')) (bne_iff_ne.mpr many)]
        exact .single (likeItem_eq_run_iff.not.mpr many) (admits_likeItem_self many)
          inductionHypothesis

theorem not_matches_ofLike_letters {c : Char} (title : c ∈ titleLetters)
    (member : c ∈ text.toList) : ¬ Matches (ofLike true text) (letters text) := by
  intro stands
  have refused : titleLetters.all (fun c => !(likeItem true c).admits c) = true := by
    decide +kernel
  have sign : titleLetters.all (· != '%') = true := by decide +kernel
  have pairs := forall₂_singles stands (by rw [singles_ofLike, List.length_map])
  rw [singles_ofLike, List.forall₂_map_left_iff, List.forall₂_same] at pairs
  have admitted := pairs c (List.mem_filter.mpr ⟨member, List.all_eq_true.mp sign c title⟩)
  have not := List.all_eq_true.mp refused c title
  rw [admitted] at not
  cases not

theorem utf8ByteSize_letters_le {ignoreCase : Bool}
    (small : (ofLike ignoreCase text).isTooLarge = false) :
    (String.ofList (letters text)).utf8ByteSize ≤ longestKeyword := by
  have few := length_singles_lt small
  rw [singles_ofLike, List.length_map] at few
  have bytes := Text.utf8ByteSize_ofList_le (letters text)
  have room : 4 * stateLimit ≤ longestKeyword := by decide
  omega

end Pattern

theorem Record.exists_built_text (registry : Registry) {a : Attribute} (isText : a.isDate = false)
    {v : String} (filled : Text.allBlank v = false) :
    ∃ r : Record, r.Built registry ∧ r.text? a = some v := by
  obtain ⟨r, set, value⟩ := (full v).setText_name isText v
  have held : r.value a = some (.text v) := by rw [value, if_pos rfl]
  have identity : r.id = (full v).id := by
    have same : r.value .id = (full v).value .id := by
      rw [value]
      split <;> rfl
    simpa [Record.value] using same
  have present (b : Attribute) : (r.value b).isNone = ((full v).value b).isNone := by
    rw [value]
    split
    · next same =>
        subst same
        cases b <;> rfl
    · rfl
  have complete := complete_iff.mp (full_built registry filled).complete
  rw [fault?_congr identity.symm fun b => (present b).symm] at complete
  obtain ⟨steps, made⟩ : ∃ steps, full v = ofSteps v steps := ⟨_, rfl⟩
  have last : ofSteps v (steps ++ [.text a.name v]) = r := by
    rw [ofSteps, List.foldl_append, ← ofSteps, ← made, List.foldl_cons, List.foldl_nil,
      Step.applyOrKeep, Step.apply, set]
  refine ⟨r, ⟨v, steps ++ [.text a.name v], finish_eq_ok_iff.mpr ⟨?_, last⟩⟩, by rw [text?, held]⟩
  rw [last]
  exact complete

namespace Store

variable {registry : Registry} {a : Attribute} {pattern : String} {ignoreCase : Bool}
  {q q' : Query} {s : Store} {contents hits : List Record} {r : Record}

theorem populated_of_save (built : r.Built registry) :
    Populated registry (keeping registry [r.floorDates]) [r.floorDates] := by
  have settled : ∀ r' ∈ [r.floorDates], r'.Settled registry :=
    List.forall_mem_singleton.mpr built.complete.settled
  refine ⟨⟨inMemory registry, [.save r], .memory, List.forall_mem_singleton.mpr built, ?_⟩,
    kept_keeping settled⟩
  have saved := save_keeping registry [] r
  rw [if_neg (by simp)] at saved
  rw [Operation.trace, Operation.trace, Operation.run, inMemory_eq_keeping, saved]
  rfl

theorem not_isTooLarge_of_compiled (kind : registry.kind a = .keyword)
    (compiled : Query.ofFilter registry (.test a.name (.like pattern ignoreCase)) = .ok q) :
    (Pattern.ofLike ignoreCase pattern).isTooLarge = false := by
  rw [Query.ofFilter_test] at compiled
  simp only [Query.ofPredicate, Query.ofLike, kind, Query.ofPattern] at compiled
  split at compiled
  · cases compiled
  · next small => exact Bool.eq_false_iff.mpr small

theorem ofFilter_like_keyword (kind : registry.kind a = .keyword)
    (small : (Pattern.ofLike ignoreCase pattern).isTooLarge = false) :
    Query.ofFilter registry (.test a.name (.like pattern ignoreCase)) =
      .ok (.pattern a (Pattern.ofLike ignoreCase pattern)) := by
  rw [Query.ofFilter_test]
  simp only [Query.ofPredicate, Query.ofLike, kind, Query.ofPattern, small]
  rfl

theorem mem_hits_like_iff (kind : registry.kind a = .keyword)
    (compiled : Query.ofFilter registry (.test a.name (.like pattern ignoreCase)) = .ok q)
    (populated : Populated registry s contents) (found : query q s = (.ok hits, s)) :
    r ∈ hits ↔ r ∈ contents ∧ ∃ v, r.text? a = some v ∧ v.utf8ByteSize ≤ longestKeyword ∧
      Pattern.Matches (Pattern.ofLike ignoreCase pattern) v.toList := by
  rw [populated.mem_hits_iff (.test _ _) compiled found, Filter.holds_like_iff_matches kind]

theorem exists_missed (kind : registry.kind a = .keyword)
    (strict : Query.ofFilter registry (.test a.name (.like pattern false)) = .ok q) {c : Char}
    (member : c ∈ pattern.toList) (title : c ∈ titleLetters) :
    ∃ s r v, Populated registry s [r] ∧ r.text? a = some v ∧ v.utf8ByteSize ≤ longestKeyword ∧
      Pattern.Matches (Pattern.ofLike false pattern) v.toList ∧
        ¬ Pattern.Matches (Pattern.ofLike true pattern) v.toList := by
  have isText : a.isDate = false := by
    rw [Bool.eq_false_iff, ne_eq, ← registry.kind_date, kind]
    exact nofun
  have filled : Text.allBlank (String.ofList (Pattern.letters pattern)) = false := by
    have dark : titleLetters.all (fun c => c != '%' && !Text.isBlank c) = true := by
      decide +kernel
    have sign := List.all_eq_true.mp dark c title
    rw [Bool.and_eq_true] at sign
    rw [Text.allBlank, String.toList_ofList, List.all_eq_false]
    refine ⟨c, List.mem_filter.mpr ⟨member, sign.1⟩, ?_⟩
    simpa using sign.2
  obtain ⟨r, built, held⟩ := Record.exists_built_text registry isText filled
  refine ⟨_, r.floorDates, _, populated_of_save built, ?_,
    Pattern.utf8ByteSize_letters_le (not_isTooLarge_of_compiled kind strict), ?_, ?_⟩
  · rw [← Stored.text?_ofRecord registry, Stored.ofRecord_floorDates, Stored.text?_ofRecord, held]
  · rw [String.toList_ofList]
    exact Pattern.matches_ofLike_letters
  · rw [String.toList_ofList]
    exact Pattern.not_matches_ofLike_letters title member

/-- In every store, a pattern finds no less without regard to case, and with it every keyword that
has its text, exactly if the pattern has no title letter. -/
theorem query_ignoring_case_widens_iff (kind : registry.kind a = .keyword)
    (strict : Query.ofFilter registry (.test a.name (.like pattern false)) = .ok q)
    (loose : Query.ofFilter registry (.test a.name (.like pattern true)) = .ok q') :
    (∀ s contents, Populated registry s contents →
      ∃ hits hits', query q s = (.ok hits, s) ∧ query q' s = (.ok hits', s) ∧
        (∀ r ∈ hits, r ∈ hits') ∧
        ∀ r ∈ contents, r.text? a = some pattern → pattern.utf8ByteSize ≤ longestKeyword →
          '\n' ∉ pattern.toList → r ∈ hits') ↔
      ∀ c ∈ pattern.toList, c ∉ titleLetters := by
  constructor
  · intro widens c member title
    obtain ⟨s, r, v, populated, held, short, stands, missed⟩ :=
      exists_missed kind strict member title
    obtain ⟨hits, hits', found, found', wider, -⟩ := widens s [r] populated
    have hit : r ∈ hits := (mem_hits_like_iff kind strict populated found).mpr
      ⟨List.mem_singleton_self r, v, held, short, stands⟩
    obtain ⟨-, v', held', -, stands'⟩ :=
      (mem_hits_like_iff kind loose populated found').mp (wider r hit)
    obtain rfl := Option.some.inj (held.symm.trans held')
    exact missed stands'
  · intro other s contents populated
    obtain ⟨hits, ⟨_, compiled, found⟩, -⟩ := populated.selects (.test _ _) strict
    obtain ⟨hits', ⟨_, compiled', found'⟩, -⟩ := populated.selects (.test _ _) loose
    obtain rfl := Except.ok.inj (strict.symm.trans compiled)
    obtain rfl := Except.ok.inj (loose.symm.trans compiled')
    have widely {r : Record} := mem_hits_like_iff (r := r) kind loose populated found'
    refine ⟨hits, hits', found, found', fun r hit => ?_, fun r kept held short oneLine => ?_⟩
    · obtain ⟨kept, v, held, short, stands⟩ :=
        (mem_hits_like_iff kind strict populated found).mp hit
      exact widely.mpr ⟨kept, v, held, short, stands.ignoreCase other⟩
    · have stands := (Pattern.matches_ofLike_self oneLine).ignoreCase other
      exact widely.mpr ⟨kept, pattern, held, short, stands⟩

theorem query_ignoring_case_widens_iff_ascii :
    ∃ q q', Query.ofFilter Registry.standard (.test "countryCode" (.like "%Ab" false)) = .ok q ∧
      Query.ofFilter Registry.standard (.test "countryCode" (.like "%Ab" true)) = .ok q' ∧
      ∀ s contents, Populated Registry.standard s contents →
        ∃ hits hits', query q s = (.ok hits, s) ∧ query q' s = (.ok hits', s) ∧
          ∀ r ∈ hits, r ∈ hits' := by
  have kind : Registry.standard.kind .countryCode = .keyword := rfl
  have small : (Pattern.ofLike false "%Ab").isTooLarge = false := by decide +kernel
  have small' : (Pattern.ofLike true "%Ab").isTooLarge = false := by decide +kernel
  have strict := ofFilter_like_keyword kind small
  have loose := ofFilter_like_keyword kind small'
  have other : "%Ab".toList.all (fun c => decide (c ∉ titleLetters)) = true := by decide +kernel
  refine ⟨_, _, strict, loose, fun s contents populated => ?_⟩
  obtain ⟨hits, hits', found, found', wider, -⟩ :=
    (query_ignoring_case_widens_iff kind strict loose).mpr
      (fun c member => of_decide_eq_true (List.all_eq_true.mp other c member)) s contents populated
  exact ⟨hits, hits', found, found', wider⟩

/-- A title letter is found by itself, and no longer if case is ignored. -/
theorem query_ignoring_case_misses :
    ∃ hits hits',
      Finds Registry.standard
        (Operation.trace Operation.run [.save { id := "a", countryCode := some "\u01C5" }]
          (inMemory Registry.standard)).2
        (.test "countryCode" (.like "\u01C5" false)) hits ∧
      Finds Registry.standard
        (Operation.trace Operation.run [.save { id := "a", countryCode := some "\u01C5" }]
          (inMemory Registry.standard)).2
        (.test "countryCode" (.like "\u01C5" true)) hits' ∧
      { id := "a", countryCode := some "\u01C5" } ∈ hits ∧
        { id := "a", countryCode := some "\u01C5" } ∉ hits' := by
  have built : Record.Built Registry.standard { id := "a", countryCode := some "\u01C5" } :=
    ⟨"a", [.text "countryCode" "\u01C5"], by decide⟩
  have populated := populated_of_saves _ (List.forall_mem_singleton.mpr built) (by rfl)
  have kind : Registry.standard.kind .countryCode = .keyword := rfl
  have small : (Pattern.ofLike false "\u01C5").isTooLarge = false := by decide +kernel
  have small' : (Pattern.ofLike true "\u01C5").isTooLarge = false := by decide +kernel
  obtain ⟨hits, ⟨q, compiled, found⟩, -⟩ :=
    populated.selects (.test _ _) (ofFilter_like_keyword kind small)
  obtain ⟨hits', ⟨q', compiled', found'⟩, -⟩ :=
    populated.selects (.test _ _) (ofFilter_like_keyword kind small')
  refine ⟨hits, hits', ⟨q, compiled, found⟩, ⟨q', compiled', found'⟩, ?_, fun hit => ?_⟩
  · refine (mem_hits_like_iff kind compiled populated found).mpr
      ⟨List.mem_singleton_self _, "\u01C5", rfl, by decide, ?_⟩
    exact Pattern.matches_ofLike_self (by decide)
  · obtain ⟨-, v, held, -, stands⟩ := (mem_hits_like_iff kind compiled' populated found').mp hit
    obtain rfl := Option.some.inj held
    have refused : (Pattern.ofLike true "\u01C5").accepts "\u01C5".toList = false := by
      decide +kernel
    rw [Pattern.accepts_iff.mpr stands] at refused
    cases refused

end Store

end RecordSearch
