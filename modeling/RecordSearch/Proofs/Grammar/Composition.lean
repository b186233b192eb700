import RecordSearch.Proofs.Grammar.Simulation

/-!
# Queries that are put together from queries

Whatever queries a dialect accepts, it accepts them in brackets with connectives between them.  NOT
binds more tightly than AND, and AND more tightly than OR.
-/

namespace RecordSearch

open RecordSearch.Grammar RecordSearch.Text
open RecordSearch.Dialect (conjunction disjunction)

namespace Grammar

structure Gap where
  text : List Char
  filled : text ≠ []
  blank : ∀ c ∈ text, isSpace c = true

structure Spelling (w : String) where
  text : String
  spells : Spells text w

structure Connective (w : String) where
  before : Gap
  keyword : Spelling w
  after : Gap

def Connective.text {w : String} (c : Connective w) : List Char :=
  c.before.text ++ c.keyword.text.toList ++ c.after.text

structure Operand (d : Dialect) where
  query : String
  filter : Filter
  accepted : d.read query = .ok filter
  pair : Char × Char
  bracket : pair ∈ d.brackets
  negation : Option (Spelling "not" × Gap)

namespace Operand

variable {d : Dialect}

def bracketed (o : Operand d) : List Char := o.pair.1 :: (o.query.toList ++ [o.pair.2])

def text (o : Operand d) : List Char :=
  match o.negation with
  | some (word, gap) => word.text.toList ++ gap.text ++ o.bracketed
  | none => o.bracketed

def result (o : Operand d) : Filter := Filter.negateIf o.negation.isSome o.filter

end Operand

/-- Items with connectives between them. -/
structure Chain (w : String) (α : Type) where
  first : α
  others : List (Connective w × α)

namespace Chain

variable {w : String} {α β : Type}

def items (chain : Chain w α) : List α := chain.first :: chain.others.map Prod.snd

def text (render : α → List Char) (chain : Chain w α) : List Char :=
  render chain.first ++ chain.others.flatMap fun other => other.1.text ++ render other.2

end Chain

variable {d : Dialect} {s rest t tail : List Char} {w : String}

section Blanks

theorem Gap.dropWhile (gap : Gap) (s : List Char) :
    (gap.text ++ s).dropWhile isSpace = s.dropWhile isSpace :=
  List.dropWhile_append_of_pos gap.blank

theorem Gap.parted (gap : Gap) (s : List Char) : Parted (gap.text ++ s) := by
  obtain ⟨c, later, text⟩ := List.exists_cons_of_ne_nil gap.filled
  have blank := gap.blank c (text ▸ List.mem_cons_self)
  simp only [isSpace, Bool.or_eq_true, beq_iff_eq] at blank
  rw [text]
  apply parted_cons
  rcases blank with ((rfl | rfl) | rfl) | rfl <;> decide

theorem Gap.stops (gap : Gap) (s : List Char) : Stops isNameChar (gap.text ++ s) :=
  (gap.parted s).stops rfl

theorem Spelling.stops (word : Spelling w) (filled : w.toList ≠ []) (s : List Char) :
    Stops isSpace (word.text.toList ++ s) := by
  cases text : word.text.toList with
  | nil =>
      have lowered := word.spells.2
      rw [text] at lowered
      exact absurd lowered.symm filled
  | cons c later =>
      have inName := word.spells.run c (text ▸ List.mem_cons_self)
      refine stops_cons.mpr ?_
      by_contra blank
      simp only [isSpace, Bool.or_eq_true, beq_iff_eq, Bool.not_eq_false] at blank
      rcases blank with ((rfl | rfl) | rfl) | rfl <;> cases inName

theorem Connective.read (c : Connective w) (filled : w.toList ≠ []) (s : List Char) :
    (word w).read ((c.text ++ s).dropWhile isSpace) = some ((), c.after.text ++ s) := by
  rw [Connective.text, List.append_assoc, List.append_assoc, c.before.dropWhile,
    (c.keyword.stops filled _).dropWhile]
  exact c.keyword.spells.read (c.after.stops s)

end Blanks

section Chains

variable {α : Type} {β : Type} {chain : Chain w α} {render : α → List Char}

/-- A chain of items is a series of them, if each of them is read in front of what may follow. -/
theorem Chain.series {item : Rule β} {result : α → β} {F : List Char → Prop}
    (filled : w.toList ≠ [])
    (opens : ∀ a ∈ chain.items, ∀ tail, Stops isSpace (render a ++ tail))
    (goesOn : ∀ (c : Connective w) tail, F (c.text ++ tail))
    (reads : ∀ a ∈ chain.items, ∀ tail, F tail →
      item.read (render a ++ tail) = some (result a, tail)) (last : F rest) :
    Series (word w) item (chain.text render ++ rest) (chain.items.map result) rest := by
  obtain ⟨first, others⟩ := chain
  induction others generalizing first with
  | nil =>
      have here := reads first List.mem_cons_self rest last
      simp only [Chain.text, Chain.items, List.flatMap_nil, List.append_nil]
      exact .single here
  | cons other others inductionHypothesis =>
      obtain ⟨c, second⟩ := other
      have later := inductionHypothesis second
        (fun a member => opens a (List.mem_cons_of_mem first member))
        (fun a member => reads a (List.mem_cons_of_mem first member))
      let behind := (Chain.mk second others).text render ++ rest
      have text : (Chain.mk first ((c, second) :: others)).text render ++ rest =
          render first ++ (c.text ++ behind) := by
        simp only [behind, Chain.text, List.flatMap_cons, List.append_assoc]
      have letter : (c.after.text ++ behind).dropWhile isSpace = behind := by
        have start := opens second (List.mem_cons_of_mem first List.mem_cons_self)
        rw [c.after.dropWhile]
        apply Stops.dropWhile
        simp only [behind, Chain.text, List.append_assoc]
        exact start _
      rw [text]
      refine .cons (reads first List.mem_cons_self _ (goesOn c _)) (c.read filled behind) ?_
      rw [letter]
      exact later

theorem Chain.length_le {a : α} (member : a ∈ chain.items) :
    (render a).length ≤ (chain.text render).length := by
  rw [Chain.text, List.length_append]
  rcases List.mem_cons.mp member with rfl | later
  · omega
  · obtain ⟨other, among, rfl⟩ := List.mem_map.mp later
    have part := (List.sublist_flatten_of_mem
      (List.mem_map_of_mem (f := fun other => other.1.text ++ render other.2) among)).length_le
    rw [← List.flatMap_def, List.length_append] at part
    omega

end Chains

section Queries

/-- A dialect reads in front of a closing bracket what it reads at the end of a text. -/
theorem carries_self (d : Dialect) (shut : Shut t) :
    Carries d d t (fun _ => True) (fun _ => True) where
  shut := shut
  path := ⟨fun _ _ _ _ => trivial, fun _ _ _ _ _ _ => trivial⟩
  attr _ _ _ _ _ := trivial
  negated _ _ := trivial
  gathered _ _ _ _ _ _ := trivial
  brackets _ among _ _ := among
  test := by
    intro s a rest _ _ among read
    have kept := keeps_rule shut d (Form.of d s) s a rest read
    have form : Form.of d (s ++ t) = Form.of d s := by
      refine form_of_read among (fun extended said => ?_) kept
      rw [shut.headWord] at said
      exact if_pos ⟨extended, said⟩
    rw [form]
    exact ⟨among, kept⟩

theorem read_accepted {q : String} {f : Filter} (accepted : d.read q = .ok f) {depth : Nat}
    (deep : q.toList.length < depth) (shut : Shut t) :
    ∃ mid, (disjunction (d.operand depth)).read ((q.toList ++ t).dropWhile isSpace) =
      some (.ok f, mid) ∧ mid.dropWhile isSpace = t.dropWhile isSpace := by
  obtain ⟨rest, fits⟩ := Dialect.read_eq_ok_iff.mp accepted
  obtain ⟨mid, held, blank, -⟩ := read_query_eq_some.mp fits
  have carries := carries_self d shut
  have each := carries.operand (show q.toList.length + 1 ≤ depth from deep)
  have ends := endsDisjunction_of_blank blank
  have carried := carries.disjunction (fun _ _ _ _ _ => trivial) (shortens_operand d depth) each _ _
    mid trivial trivial ends held
  refine ⟨mid ++ t, ?_, ?_⟩
  · rwa [shut.dropWhile (by decide)]
  · rw [shut.dropWhile (by decide), blank, (shut.stops (by decide)).dropWhile]
    rfl

end Queries

namespace Operand

variable {o : Operand d} {depth : Nat}

theorem read_bracketed (deep : o.bracketed.length ≤ depth) (tail : List Char) :
    (d.operand depth).read (o.bracketed ++ tail) = some (.ok o.filter, tail) := by
  have length : o.bracketed.length = o.query.toList.length + 2 := by
    simp [bracketed]
  obtain ⟨depth, rfl⟩ : ∃ fewer, depth = fewer + 1 := ⟨depth - 1, by omega⟩
  have shut : Shut (o.pair.2 :: tail) := shut_bracket o.bracket tail
  obtain ⟨mid, held, closed⟩ := read_accepted o.accepted
    (show o.query.toList.length < depth by omega) shut
  rw [(shut.stops (by decide)).dropWhile] at closed
  have text : o.bracketed ++ tail = o.pair.1 :: (o.query.toList ++ o.pair.2 :: tail) := by
    simp [bracketed]
  rw [text]
  exact read_operand_eq_some.mpr (.bracketed o.pair _ mid o.bracket rfl held closed)

theorem stops_bracketed (o : Operand d) (tail : List Char) :
    Stops isSpace (o.bracketed ++ tail) := by
  refine stops_cons.mpr ?_
  rcases mem_brackets o.bracket with same | same
  · rw [same]
    decide
  · rw [same]
    decide

theorem stops_text (o : Operand d) (tail : List Char) : Stops isSpace (o.text ++ tail) := by
  cases negation : o.negation with
  | none =>
      simp only [text, negation]
      exact o.stops_bracketed tail
  | some negated =>
      simp only [text, negation, List.append_assoc]
      exact negated.1.stops (by decide) _

theorem read_operand (deep : o.text.length ≤ depth) (tail : List Char) :
    (d.operand depth).read (o.text ++ tail) = some (.ok o.result, tail) := by
  cases negation : o.negation with
  | none =>
      simp only [text, negation] at deep
      simp only [text, result, negation, Option.isSome_none]
      exact read_bracketed deep tail
  | some negated =>
      obtain ⟨word, gap⟩ := negated
      simp only [text, negation, List.length_append] at deep
      simp only [text, result, negation, Option.isSome_some, List.append_assoc]
      have filled : gap.text.length ≠ 0 := fun none =>
        gap.filled (List.length_eq_zero_iff.mp none)
      obtain ⟨depth, rfl⟩ : ∃ fewer, depth = fewer + 1 := ⟨depth - 1, by omega⟩
      have inside := read_bracketed (show o.bracketed.length ≤ depth by omega) tail
      have stops := gap.stops (o.bracketed ++ tail)
      refine read_operand_eq_some.mpr (.negation (.ok o.filter) ?_ ?_)
      · exact word.spells.headWord stops
      · rwa [dropWhile_append_stops word.spells.run stops, gap.dropWhile,
          (o.stops_bracketed tail).dropWhile]

end Operand

section Groups

variable {depth : Nat}

theorem read_group (group : Chain "and" (Operand d))
    (deep : (group.text Operand.text).length ≤ depth) (ends : EndsConjunction tail) :
    (conjunction (d.operand depth)).read (group.text Operand.text ++ tail) =
      some (.ok (combined .all (group.items.map Operand.result)), tail) := by
  have reads : ∀ o ∈ group.items, ∀ tail, True →
      (d.operand depth).read (o.text ++ tail) = some (.ok o.result, tail) := fun o member tail _ =>
    o.read_operand (Nat.le_trans (Chain.length_le member) deep) tail
  have series : Series (word "and") (d.operand depth) (group.text Operand.text ++ tail)
      (group.items.map fun o => .ok o.result) tail :=
    Chain.series (F := fun _ => True) (by decide) (fun o _ => o.stops_text) (fun _ _ => trivial)
      reads trivial
  rw [conjunction_eq, read_joined_of_series (by decide) (by decide) (shortens_operand d depth)
    series ends.read_and]
  have parts : (group.items.map fun o => (.ok o.result : Built Filter)) =
      (group.items.map Operand.result).map .ok := List.map_map.symm
  rw [parts, gather_ok]

theorem stops_group (group : Chain "and" (Operand d)) (tail : List Char) :
    Stops isSpace (group.text Operand.text ++ tail) := by
  rw [Chain.text, List.append_assoc]
  exact group.first.stops_text _

theorem endsConjunction_or (c : Connective "or") (tail : List Char) :
    EndsConjunction (c.text ++ tail) := by
  obtain ⟨said, -⟩ := (read_word_eq_some (by decide)).mp (c.read (by decide) tail)
  exact .inr said

theorem read_groups (groups : Chain "or" (Chain "and" (Operand d)))
    (deep : (groups.text (Chain.text Operand.text)).length ≤ depth) :
    (disjunction (d.operand depth)).read (groups.text (Chain.text Operand.text)) =
      some (.ok (combined .any (groups.items.map fun group =>
        combined .all (group.items.map Operand.result))), []) := by
  have ends : EndsDisjunction [] := endsDisjunction_of_blank rfl
  have reads : ∀ group ∈ groups.items, ∀ tail, EndsConjunction tail →
      (conjunction (d.operand depth)).read (group.text Operand.text ++ tail) =
        some (.ok (combined .all (group.items.map Operand.result)), tail) :=
    fun group member tail ends => read_group group (Nat.le_trans (Chain.length_le member) deep) ends
  have series := Chain.series (by decide) (fun group _ => stops_group group)
    endsConjunction_or reads (.inl ends)
  rw [List.append_nil] at series
  rw [disjunction_eq, read_joined_of_series (by decide) (by decide)
    (leaves_conjunction path_length (shortens_operand d depth)) series
    (ends.read_word (by decide) (by decide))]
  have parts : (groups.items.map fun group =>
      (.ok (combined .all (group.items.map Operand.result)) : Built Filter)) =
        (groups.items.map fun group => combined .all (group.items.map Operand.result)).map .ok :=
    List.map_map.symm
  rw [parts, gather_ok]

end Groups

end Grammar

namespace Dialect

variable {d : Dialect}

/-- Accepted queries in brackets, some of them negated, with AND between those of a group and OR
between groups, are accepted and mean what the connectives say of their meanings. -/
theorem read_composed (groups : Chain "or" (Chain "and" (Operand d))) :
    d.read (String.ofList (groups.text (Chain.text Operand.text))) =
      .ok (combined .any (groups.items.map fun group =>
        combined .all (group.items.map Operand.result))) := by
  apply read_eq_ok_iff.mpr
  refine ⟨[], ?_⟩
  rw [String.toList_ofList]
  apply read_query_eq_some.mpr
  have first : Stops isSpace (groups.text (Chain.text Operand.text)) := by
    have start := stops_group groups.first
      (groups.others.flatMap fun other => other.1.text ++ other.2.text Operand.text)
    exact start
  refine ⟨[], ?_, rfl, rfl⟩
  rw [first.dropWhile]
  exact read_groups groups (Nat.le_succ _)

/-- Keywords in any letter case, blanks of several kinds and square brackets. -/
theorem read_composed_classic :
    classic.read "[state IS NULL] Or\n\tnot (state LIKE 'a%') AND [state IS NULL]" =
      .ok (.any [.test "state" .isNull,
        .all [.not (.test "state" (.like "a%" false)), .test "state" .isNull]]) := by
  have state : classic.IsAttribute "state" := by
    refine ⟨⟨⟨'s', "tate".toList, by decide, by decide, ?_⟩, by decide⟩, fun _ => by decide⟩
    exact List.all_eq_true.mp (by decide)
  have missing : classic.read "state IS NULL" = .ok (.test "state" .isNull) :=
    read_of_query (show classic.query.read (Filter.test "state" .isNull).render = _ from
      read_query (.test state trivial))
  have pattern : classic.read "state LIKE 'a%'" = .ok (.test "state" (.like "a%" false)) :=
    read_of_query (show classic.query.read (Filter.test "state" (.like "a%" false)).render = _ from
      read_query (.test state fun caseless => by cases caseless))
  let blank : Gap := ⟨[' '], by decide, List.all_eq_true.mp rfl⟩
  let absent : Operand classic := ⟨_, _, missing, ('[', ']'), by decide, none⟩
  let negated : Operand classic :=
    ⟨_, _, pattern, ('(', ')'), by decide, some (⟨"not", by decide⟩, blank)⟩
  let either : Connective "or" :=
    ⟨blank, ⟨"Or", by decide⟩, ⟨['\n', '\t'], by decide, List.all_eq_true.mp rfl⟩⟩
  let both : Connective "and" := ⟨blank, ⟨"AND", by decide⟩, blank⟩
  let groups : Chain "or" (Chain "and" (Operand classic)) :=
    ⟨⟨absent, []⟩, [(either, ⟨negated, [(both, absent)]⟩)]⟩
  have text : groups.text (Chain.text Operand.text) =
      "[state IS NULL] Or\n\tnot (state LIKE 'a%') AND [state IS NULL]".toList := by
    simp only [groups, either, both, negated, absent, blank, Chain.text, Operand.text,
      Operand.bracketed, Connective.text, List.flatMap_cons, List.flatMap_nil]
    decide +kernel
  have composed := read_composed groups
  rw [text, String.ofList_toList] at composed
  exact composed

end Dialect

end RecordSearch
