import RecordSearch.Proofs.Grammar.Extension

/-!
# Queries that are carried to another dialect or in front of a bracket

If the tests that a dialect reads are read by another one with the same results, so are the operands
and their combinations.  A combination ends where no connective stands behind it.
-/

namespace RecordSearch

open RecordSearch.Grammar RecordSearch.Text
open RecordSearch.Dialect (gather conjunction disjunction)

namespace Grammar

variable {s rest t : List Char} {a : Built Filter}

section Ends

def EndsDisjunction (rest : List Char) : Prop := Shut (rest.dropWhile isSpace)

def EndsConjunction (rest : List Char) : Prop :=
  EndsDisjunction rest ∨ headWord (rest.dropWhile isSpace) = "or".toList

def EndsOperand (rest : List Char) : Prop :=
  EndsConjunction rest ∨ headWord (rest.dropWhile isSpace) = "and".toList

theorem Shut.append (shut : Shut t) (ended : Shut s) : Shut (s ++ t) := by
  cases s with
  | nil => exact shut
  | cons c s => exact ended

theorem Shut.headWord_eq_nil (shut : Shut t) : Grammar.headWord t = [] := by
  rw [Grammar.headWord, (shut.stops (by decide)).takeWhile]
  rfl

theorem endsDisjunction_of_blank (blank : rest.dropWhile isSpace = []) :
    EndsDisjunction rest := by
  rw [EndsDisjunction, blank]
  rintro c ⟨⟩

theorem EndsDisjunction.append (ends : EndsDisjunction rest) (shut : Shut t) :
    EndsDisjunction (rest ++ t) := by
  rw [EndsDisjunction, shut.dropWhile (by decide)]
  exact shut.append ends

theorem EndsConjunction.append (ends : EndsConjunction rest) (shut : Shut t) :
    EndsConjunction (rest ++ t) := by
  rcases ends with ended | said
  · exact .inl (ended.append shut)
  · right
    rw [shut.dropWhile (by decide), shut.headWord, said]

theorem EndsDisjunction.read_word (ends : EndsDisjunction rest) {w : String} (letters : IsWord w)
    (filled : w.toList ≠ []) : (word w).read (rest.dropWhile isSpace) = none := by
  apply read_word_eq_none letters
  rw [Shut.headWord_eq_nil ends]
  exact filled.symm

theorem EndsConjunction.read_and (ends : EndsConjunction rest) :
    (word "and").read (rest.dropWhile isSpace) = none := by
  rcases ends with ended | said
  · exact ended.read_word (by decide) (by decide)
  · apply read_word_eq_none (by decide)
    rw [said]
    decide

end Ends

section Gathered

/-- Filters under one connective; a single one stands for itself. -/
def combined (combine : List Filter → Filter) : List Filter → Filter
  | [f] => f
  | fs => combine fs

theorem gather_ok (combine : List Filter → Filter) (fs : List Filter) :
    gather combine (fs.map .ok) = .ok (combined combine fs) := by
  rw [gather, mapM_map_ok]
  cases fs with
  | nil => rfl
  | cons f others => cases others <;> rfl

theorem gather_eq_ok {combine : List Filter → Filter} {parts : List (Built Filter)} {f : Filter}
    (gathered : gather combine parts = .ok f) :
    ∃ fs, parts = fs.map .ok ∧ f = combined combine fs := by
  have sensible : ∃ fs : List Filter, parts = fs.map .ok := by
    cases each : parts.mapM id with
    | error fault =>
        rw [gather, each] at gathered
        cases gathered
    | ok fs =>
        clear gathered
        refine ⟨fs, ?_⟩
        induction parts generalizing fs with
        | nil =>
            cases each
            rfl
        | cons part parts inductionHypothesis =>
            rw [List.mapM_cons] at each
            cases part with
            | error fault => cases each
            | ok g =>
                cases later : parts.mapM id with
                | error fault =>
                    rw [later] at each
                    cases each
                | ok gs =>
                    rw [later] at each
                    cases each
                    rw [inductionHypothesis gs later]
                    rfl
  obtain ⟨fs, rfl⟩ := sensible
  rw [gather_ok] at gathered
  exact ⟨fs, rfl, (Except.ok.inj gathered).symm⟩

end Gathered

section Joined

variable {operand operand' : Rule (Built Filter)} {combine : List Filter → Filter} {w : String}

def joined (combine : List Filter → Filter) (w : String) (operand : Rule (Built Filter)) :
    Rule (Built Filter) :=
  Rule.named (gather combine <$> separated (word w) operand)

theorem conjunction_eq (operand : Rule (Built Filter)) :
    conjunction operand = joined .all "and" operand := rfl

theorem disjunction_eq (operand : Rule (Built Filter)) :
    disjunction operand = joined .any "or" (conjunction operand) := rfl

theorem series_of_read_joined (read : (joined combine w operand).read s = some (a, rest)) :
    ∃ parts, Series (word w) operand s parts rest ∧ a = gather combine parts := by
  rw [joined, Rule.read_named, Rule.read_map, Option.map_eq_some_iff] at read
  obtain ⟨⟨parts, last⟩, found, done⟩ := read
  cases done
  exact ⟨parts, Series.of_read found, rfl⟩

theorem read_joined_of_series {parts : List (Built Filter)} (letters : IsWord w)
    (filled : w.toList ≠ []) (noLonger : operand.Leaves fun s rest => rest.length ≤ s.length)
    (series : Series (word w) operand s parts rest)
    (ended : (word w).read (rest.dropWhile isSpace) = none) :
    (joined combine w operand).read s = some (gather combine parts, rest) := by
  have shorter : (word w).Leaves fun s rest => rest.length < s.length := by
    intro s u rest read
    obtain ⟨said, rfl⟩ := (read_word_eq_some letters).mp read
    have taken : s.takeWhile isNameChar ≠ [] := by
      intro none
      rw [headWord, none] at said
      exact filled said.symm
    have split := congrArg List.length
      (List.takeWhile_append_dropWhile (p := isNameChar) (l := s))
    have positive := List.length_pos_of_ne_nil taken
    rw [List.length_append] at split
    omega
  rw [joined, Rule.read_named, Rule.read_map, series.read shorter noLonger ended]
  rfl

end Joined

/-- The tests of a dialect are carried to another one, with `t` behind the text. Only texts in `In`
and results in `V` are spoken of. -/
structure Carries (d d' : Dialect) (t : List Char) (In : List Char → Prop)
    (V : Built Filter → Prop) : Prop where
  shut : Shut t
  path : Path fun s rest => In s → In rest
  attr : d.attr.Leaves fun s rest => In s → In rest
  negated : ∀ a, V (a.map .not) → V a
  gathered : ∀ combine ∈ [Filter.all, Filter.any], ∀ parts, V (gather combine parts) →
    ∀ a ∈ parts, V a
  brackets : ∀ pair ∈ d.brackets, ∀ inside, In (pair.1 :: inside) → pair ∈ d'.brackets
  test : ∀ s a rest, In s → V a → Form.of d s ∈ d.forms →
    ((Form.of d s).rule d).read s = some (a, rest) → Form.of d' (s ++ t) ∈ d'.forms ∧
      ((Form.of d' (s ++ t)).rule d').read (s ++ t) = some (a, rest ++ t)

namespace Carries

variable {d d' : Dialect} {In : List Char → Prop} {V : Built Filter → Prop}
  {item item' : Rule (Built Filter)}

/-- What one rule reads another one reads too, in front of some text. -/
def Carried (t : List Char) (In : List Char → Prop) (V : Built Filter → Prop)
    (F : List Char → Prop) (rule rule' : Rule (Built Filter)) : Prop :=
  ∀ s a rest, In s → V a → F rest → rule.read s = some (a, rest) →
    rule'.read (s ++ t) = some (a, rest ++ t)

theorem conjunction (carries : Carries d d' t In V)
    (leaves : item.Leaves fun s rest => In s → In rest)
    (noLonger : item'.Leaves fun s rest => rest.length ≤ s.length)
    (each : Carried t In V (fun _ => True) item item') :
    Carried t In V EndsConjunction (Dialect.conjunction item)
      (Dialect.conjunction item') := by
  intro s a rest inside valid ends read
  obtain ⟨parts, series, rfl⟩ := series_of_read_joined read
  have carried := series.carry carries.shut carries.path
    (leaves_word carries.path (by decide)) (keeps_word carries.shut.parted (by decide))
    (fun _ _ _ => trivial) leaves each inside
    (carries.gathered .all List.mem_cons_self parts valid) trivial
  exact read_joined_of_series (by decide) (by decide) noLonger carried
    (ends.append carries.shut).read_and

theorem disjunction (carries : Carries d d' t In V)
    (leaves : item.Leaves fun s rest => In s → In rest)
    (noLonger : item'.Leaves fun s rest => rest.length ≤ s.length)
    (each : Carried t In V (fun _ => True) item item') :
    Carried t In V EndsDisjunction (Dialect.disjunction item)
      (Dialect.disjunction item') := by
  intro s a rest inside valid ends read
  obtain ⟨parts, series, rfl⟩ := series_of_read_joined read
  have goesOn (mid next : List Char)
      (stands : (word "or").read (mid.dropWhile isSpace) = some ((), next)) :
      EndsConjunction mid := .inr ((read_word_eq_some (by decide)).mp stands).1
  have carried := series.carry carries.shut carries.path
    (leaves_word carries.path (by decide)) (keeps_word carries.shut.parted (by decide))
    goesOn (leaves_conjunction carries.path leaves) (carries.conjunction leaves noLonger each)
    inside (carries.gathered .any (List.mem_cons_of_mem _ List.mem_cons_self) parts valid) (.inl ends)
  exact read_joined_of_series (by decide) (by decide) (leaves_conjunction path_length noLonger)
    carried ((ends.append carries.shut).read_word (by decide) (by decide))

/-- An operand is carried, if there may be as many signs of nesting in it as before. -/
theorem operand (carries : Carries d d' t In V) {depth depth' : Nat} (deep : depth ≤ depth') :
    Carried t In V (fun _ => True) (d.operand depth) (d'.operand depth') := by
  induction depth generalizing depth' with
  | zero =>
      intro s a rest _ _ _ read
      cases read
  | succ depth inductionHypothesis =>
      obtain ⟨depth', rfl⟩ : ∃ fewer, depth' = fewer + 1 := ⟨depth' - 1, by omega⟩
      have each := inductionHypothesis (Nat.le_of_succ_le_succ deep)
      have path := carries.path
      have leaves := leaves_operand path carries.attr depth
      have blank (s : List Char) : (s ++ t).dropWhile isSpace = s.dropWhile isSpace ++ t :=
        carries.shut.dropWhile (by decide) s
      intro s a rest inside valid _ read
      -- Read by its form, an operand can be carried without regard to the rules tried before.
      apply read_operand_eq_some.mpr
      cases read_operand_eq_some.mp read with
      | negation b said later =>
          have first : (word "not").read s = some ((), s.dropWhile isNameChar) :=
            (read_word_eq_some (by decide)).mpr ⟨said, rfl⟩
          have behind := path.skip _ (leaves_word path (by decide) _ _ _ first inside)
          have carried := each _ b rest behind (carries.negated b valid) trivial later
          refine .negation b (by rwa [carries.shut.headWord]) ?_
          rwa [carries.shut.dropWhile (by decide), blank]
      | bracketed pair inside' mid among opened held closed =>
          subst opened
          have unquoted := (unquoted_of_mem_brackets among).1
          have skipped : In ([pair.1] ++ inside') → In inside' :=
            path.plain inside' (List.forall_mem_singleton.mpr unquoted)
          have opened := skipped inside
          have ends : EndsDisjunction mid := by
            rw [EndsDisjunction, closed]
            exact shut_bracket among rest
          have carried := carries.disjunction leaves (shortens_operand d' depth') each _ a mid
            (path.skip _ opened) valid ends held
          rw [← blank] at carried
          refine .bracketed pair (inside' ++ t) (mid ++ t) (carries.brackets pair among _ inside)
            rfl carried ?_
          rw [blank, closed]
          rfl
      | test among found =>
          obtain ⟨among', found'⟩ := carries.test s a rest inside valid among found
          exact .test among' found'

end Carries

end Grammar

end RecordSearch
