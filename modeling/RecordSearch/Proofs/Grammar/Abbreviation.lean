import RecordSearch.Proofs.Grammar.Spaced
import RecordSearch.Proofs.Query.Order

/-!
# Abbreviated tests

NOT may stand inside a test instead of before it, and in the extended dialect the value of a
comparison may come first.  Such a test is accepted where the one that it abbreviates is, with the
same filter.  At the head of a test of this dialect the word `include` is a keyword and no
attribute, so nothing is accepted there.
-/

namespace RecordSearch

open RecordSearch.Grammar RecordSearch.Text
open RecordSearch.Dialect (extended classic)

namespace Grammar

/-- What a test says of its attribute, in the forms that have a place for NOT. -/
inductive Clause where
  | like (ignoreCase : Bool) (pattern : Written quoted)
  | between (lower upper : Written value)
  | oneOf (values : List (Written value)) (filled : values ≠ [])
  | null

def notWords (negated : Bool) : List (List Char) := if negated then ["NOT".toList] else []

namespace Clause

def words (negated : Bool) : Clause → List (List Char)
  | like ignoreCase pattern =>
    notWords negated ++ [(if ignoreCase then "ILIKE" else "LIKE").toList, pattern.text]
  | between lower upper =>
    notWords negated ++ ["BETWEEN".toList, lower.text, "AND".toList, upper.text]
  | oneOf values _ => notWords negated ++ ["IN".toList, listText values]
  | null => "IS".toList :: (notWords negated ++ ["NULL".toList])

def Belongs (d : Dialect) : Clause → Prop
  | like ignoreCase _ => ignoreCase = true → d = .extended
  | oneOf _ _ => d = .extended
  | between _ _ | null => True

def form : Clause → Form
  | like _ _ => .like
  | between _ _ => .between
  | oneOf _ _ => .oneOf
  | null => .null

def predicate : Clause → Built Predicate
  | like ignoreCase pattern => .ok (.like pattern.meaning ignoreCase)
  | between lower upper => do
    let lower ← lower.meaning
    let upper ← upper.meaning
    return .between lower upper
  | oneOf values _ => do
    let values ← (values.map Written.meaning).mapM id
    return .oneOf values
  | null => .ok .isNull

end Clause

variable {d : Dialect} {s rest : List Char} {name : String}

section Words

variable {α β : Type} {words : List (List Char)}

theorem spans_present {rule : Rule α} {body : Bool → α → Rule β} {b : β} (negated : Bool)
    (spans : (next rule >>= body negated).Spans words b)
    (positive : ∀ s r, rule.read s = some r → headWord s ≠ "not".toList) :
    (next (Rule.present (word "not")) >>= fun negated => next rule >>= body negated).Spans
      (notWords negated ++ words) b := by
  intro more s spaced
  cases negated with
  | true =>
      cases spaced with
      | @cons gap _ _ behind later =>
          obtain ⟨rest, last, read⟩ := spans more behind later
          have spells : Spells "NOT" "not" := by decide
          have said := spells.headWord (later.parted.stops (q := isNameChar) rfl)
          have left : ("NOT".toList ++ behind).dropWhile isNameChar = behind :=
            dropWhile_append_stops spells.run (later.parted.stops rfl)
          have letter : Stops isSpace ("NOT".toList ++ behind) := stops_cons.mpr (by decide)
          refine ⟨rest, last, ?_⟩
          rw [Rule.read_bind, read_next, gap.dropWhile, letter.dropWhile, read_present_not,
            afterNot, if_pos said, left]
          exact read
  | false =>
      obtain ⟨rest, last, read⟩ := spans more s spaced
      refine ⟨rest, last, ?_⟩
      obtain ⟨a, mid, first, later⟩ := Rule.read_bind_eq_some.mp read
      rw [read_next] at first
      rw [Rule.read_bind, read_next, read_present_not, afterNot, if_neg (positive _ _ first)]
      refine Rule.read_bind_eq_some.mpr ⟨a, mid, ?_, later⟩
      rwa [read_next, dropWhile_idempotent]

theorem spans_negated {rule : Rule (Built Predicate)} {p : Built Predicate} (negated : Bool)
    (spans : (next rule).Spans words p)
    (positive : ∀ s r, rule.read s = some r → headWord s ≠ "not".toList) :
    (Grammar.negated name rule).Spans (notWords negated ++ words)
      (p.map fun p => Filter.negateIf negated (.test name p)) := by
  refine spans_present negated ?_ positive
  rw [← List.append_nil words]
  exact spans.bind (.pure _)

theorem spans_keyword {taken w : String} (spells : Spells taken w) (filled : w.toList ≠ []) :
    (next (word w)).Spans [taken.toList] () :=
  (solid_word spells.1 filled).spans (keywordText spells)

theorem spans_likeWord {ignoreCase caseless : Bool} (known : ignoreCase = true → caseless = true) :
    (next (likeWord caseless)).Spans [(if ignoreCase then "ILIKE" else "LIKE").toList]
      ignoreCase := by
  apply Rule.Spans.of_read
  · intro rest
    cases ignoreCase with
    | true => exact stops_cons.mpr (by decide)
    | false => exact stops_cons.mpr (by decide)
  · exact fun rest parted => read_likeWord known (parted.stops rfl)

end Words

section Clauses

theorem Clause.form_mem {c : Clause} (belongs : c.Belongs d) : c.form ∈ d.forms := by
  cases c with
  | oneOf values filled =>
      obtain rfl : d = .extended := belongs
      exact (by decide : Form.oneOf ∈ extended.forms)
  | like ignoreCase pattern => cases d <;> exact List.mem_of_elem_eq_true rfl
  | between lower upper => cases d <;> exact List.mem_of_elem_eq_true rfl
  | null => cases d <;> exact List.mem_of_elem_eq_true rfl

theorem Clause.spans {c : Clause} (belongs : c.Belongs d) (negated : Bool) :
    (c.form.behind d.caseless name).Spans (c.words negated)
      (c.predicate.map fun p => Filter.negateIf negated (.test name p)) := by
  cases c with
  | like ignoreCase pattern =>
      have known : ignoreCase = true → d.caseless = true := by
        intro caseless
        rw [show d = .extended from belongs caseless]
        rfl
      apply spans_negated
      · exact .next_bind <| (spans_likeWord known).bind <|
          (solid_quoted.spans pattern).bind (.pure _)
      · rintro s ⟨p, rest⟩ read
        obtain ⟨ignoreCase, mid, first, -⟩ := Rule.read_bind_eq_some.mp read
        rcases headWord_of_read_likeWord first with said | said
        · rw [said]
          decide
        · rw [said]
          decide
  | between lower upper =>
      apply spans_negated
      · exact .next_bind <| (spans_keyword (by decide) (by decide)).bind <|
          (solid_value.spans lower).bind <| (spans_keyword (by decide) (by decide)).bind <|
            (solid_value.spans upper).bind (.pure _)
      · rintro s ⟨p, rest⟩ read
        rw [headWord_of_read_bind (by decide) read]
        decide
  | oneOf values filled =>
      apply spans_negated
      · exact .next_bind <| (spans_keyword (by decide) (by decide)).bind <|
          (solid_value.spans_listOf filled).bind (.pure _)
      · rintro s ⟨p, rest⟩ read
        rw [headWord_of_read_bind (by decide) read]
        decide
  | null =>
      refine (spans_keyword (show Spells "IS" "is" by decide) (by decide)).bind ?_
      refine spans_present negated
        ((spans_keyword (show Spells "NULL" "null" by decide) (by decide)).bind (.pure _)) ?_
      rintro s ⟨u, rest⟩ read
      rw [((read_word_eq_some (by decide)).mp read).1]
      decide

/-- A clause begins with a word of its own, so no connective can stand in its place. -/
theorem Clause.headWord_ne {c : Clause} (belongs : c.Belongs d) {negated : Bool}
    (spaced : Spaced (c.words negated) s) {w : List Char} (other : w ≠ "not".toList)
    (unknown : Form.ofWord w = .comparison) : headWord (s.dropWhile isSpace) ≠ w := by
  intro said
  have spans : (c.form.behind d.caseless identityName).Spans (c.words negated) _ :=
    Clause.spans belongs negated
  have form := ofRest_of_behind (spans.read spaced)
  rw [ofRest_of_headWord said other, unknown] at form
  cases c <;> cases form

end Clauses

section Operands

variable {a : Written d.attr} {c : Clause} {negated : Bool} {v : Built Filter}

/-- An attribute that is read as a keyword where a test begins. -/
def IsInclude (a : Written d.attr) : Prop := d = .extended ∧ headWord a.text = "include".toList

theorem IsInclude.run (included : IsInclude a) : ∀ b ∈ a.text, isNameChar b = true := by
  obtain ⟨rfl, said⟩ := included
  obtain ⟨text, meaning, reads⟩ := a
  simp only [Dialect.attr, extendedAttribute, Rule.read_named, Rule.read_firstOf_pair_eq_some,
    Rule.read_map, Rule.read_token, Option.map_eq_some_iff] at reads
  rcases reads with quoted | ⟨-, ⟨taken, last⟩, bare, done⟩
  · rw [quotedAttribute, Rule.read_named] at quoted
    obtain ⟨u, mid, first, -⟩ := Rule.read_bind_eq_some.mp quoted
    obtain rfl := read_mark_eq_some.mp first
    cases said
  · cases done
    obtain ⟨whole, run⟩ := takes_bareName _ _ _ bare
    rw [List.append_nil] at whole
    subst whole
    exact run

/-- An attribute with a clause is the operand that its words say, unless a keyword ends it. -/
theorem read_operand_clause (a : Written d.attr) (belongs : c.Belongs d)
    (spaced : Spaced (c.words negated) s) (depth : Nat) :
    (IsInclude a → (d.operand (depth + 1)).read (a.text ++ s) = some (.ok .everything, s)) ∧
      (¬ IsInclude a → (d.operand (depth + 1)).read (a.text ++ s) =
        some (c.predicate.map fun p => Filter.negateIf negated (.test a.meaning p), [])) := by
  have same := spaced.parted.headWord a.text
  constructor
  · intro included
    have run := included.run
    obtain ⟨rfl, said⟩ := included
    refine read_operand_test (f := .everything) (by decide) ?_ (fun _ _ => rfl) depth
    have found : (word "include").read (a.text ++ s) = some ((), s) :=
      (read_word_eq_some (by decide)).mpr
        ⟨same.trans said, (dropWhile_append_stops run (spaced.parted.stops rfl)).symm⟩
    simp only [Form.rule, constant, Rule.read_bind, found, Option.bind_some, Rule.read_pure]
  · intro free
    refine read_operand_test (c.form_mem belongs) ?_
      (fun extended said => absurd ⟨extended, same.symm.trans said⟩ free) depth
    have attributed : c.form.attributed = true := by cases c <;> rfl
    rw [read_rule_attributed attributed, a.read ((solid_attr d).keeps spaced.parted),
      Option.bind_some]
    exact (Clause.spans belongs negated).read spaced

theorem read_operand_not (gap : Gap) (stops : Stops isSpace s) {depth : Nat}
    (read : (d.operand depth).read s = some (v, rest)) :
    (d.operand (depth + 1)).read ("NOT".toList ++ (gap.text ++ s)) =
      some (v.map .not, rest) := by
  have spells : Spells "NOT" "not" := by decide
  refine read_operand_eq_some.mpr (.negation v (spells.headWord (gap.stops s)) ?_)
  rwa [dropWhile_append_stops spells.run (gap.stops s), gap.dropWhile, stops.dropWhile]

end Operands

section Queries

variable {a : Written d.attr} {c : Clause} {negated : Bool} {v : Built Filter}

/-- No query ends with a clause that its operand leaves. -/
theorem Clause.read_query_eq_none (belongs : c.Belongs d) (spaced : Spaced (c.words negated) rest)
    (stops : Stops isSpace s) (read : (d.operand (s.length + 1)).read s = some (v, rest)) :
    d.query.read s = none := by
  have other {w : List Char} (notNot : w ≠ "not".toList) (unknown : Form.ofWord w = .comparison) :
      headWord (rest.dropWhile isSpace) ≠ w := Clause.headWord_ne belongs spaced notNot unknown
  have filled : rest.dropWhile isSpace ≠ [] := by
    intro blank
    exact other (w := []) (by decide) (by decide) (by rw [blank]; rfl)
  rw [read_query_operand stops read (other (by decide) (by decide)) (other (by decide) (by decide)),
    if_neg filled]

theorem read_query_clause (a : Written d.attr) (belongs : c.Belongs d)
    (spaced : Spaced (c.words negated) s) :
    (IsInclude a → d.query.read (a.text ++ s) = none) ∧
      (¬ IsInclude a → d.query.read (a.text ++ s) =
        some (c.predicate.map fun p => Filter.negateIf negated (.test a.meaning p), [])) := by
  have stops := (solid_attr d).stops a s
  obtain ⟨included, free⟩ := read_operand_clause a belongs spaced (a.text ++ s).length
  exact ⟨fun keyword => Clause.read_query_eq_none belongs spaced stops (included keyword),
    fun name => read_query_whole stops (free name)⟩

theorem read_query_not_clause (a : Written d.attr) (belongs : c.Belongs d)
    (spaced : Spaced (a.text :: c.words negated) s) :
    (IsInclude a → d.query.read ("NOT".toList ++ s) = none) ∧
      (¬ IsInclude a → d.query.read ("NOT".toList ++ s) =
        some ((c.predicate.map fun p => Filter.negateIf negated (.test a.meaning p)).map .not,
          [])) := by
  cases spaced with
  | @cons gap _ _ behind later =>
      have stops := (solid_attr d).stops a behind
      have letter : Stops isSpace ("NOT".toList ++ (gap.text ++ (a.text ++ behind))) :=
        stops_cons.mpr (by decide)
      obtain ⟨depth, deep⟩ : ∃ depth,
          ("NOT".toList ++ (gap.text ++ (a.text ++ behind))).length = depth + 1 :=
        ⟨_, List.length_cons⟩
      obtain ⟨included, free⟩ := read_operand_clause a belongs later depth
      rw [← deep] at included free
      exact ⟨fun keyword => Clause.read_query_eq_none belongs later letter
          (read_operand_not gap stops (included keyword)),
        fun name => read_query_whole letter (read_operand_not gap stops (free name))⟩

theorem read_query_reversed (l : Written value) (op : Comparison) (a : Written extended.attr)
    (spaced : Spaced [op.symbol.toList, a.text] s) :
    extended.query.read (l.text ++ s) =
      some (l.meaning.map fun v => .test a.meaning (.compare op.flipped v), []) := by
  have behind : (do
      let op ← next comparisonOp
      let name ← next extended.attr
      return l.meaning.map fun v => .test name (.compare op.flipped v) : Rule (Built Filter)).Spans
        [op.symbol.toList, a.text]
        (l.meaning.map fun v => .test a.meaning (.compare op.flipped v)) :=
    (solid_comparisonOp.spans (operatorText op)).bind
      (((solid_attr extended).spans a).bind (.pure _))
  apply read_query_test (f := .reversed) (by decide)
  · rw [Form.rule, reversedComparison, Rule.read_named]
    exact Rule.read_bind_eq_some.mpr
      ⟨_, _, l.read (solid_value.keeps spaced.parted), behind.read spaced⟩
  · obtain ⟨b, later, text, start⟩ := head_of_read_value l.reads
    rw [text]
    exact fun _ => headWord_ne_of_value (by decide) (by decide) start

theorem read_query_comparison (a : Written d.attr) (op : Comparison) (l : Written value)
    (free : ¬ IsInclude a) (spaced : Spaced [op.symbol.toList, l.text] s) :
    d.query.read (a.text ++ s) =
      some (l.meaning.map fun v => .test a.meaning (.compare op v), []) := by
  have behind : (Form.comparison.behind d.caseless a.meaning).Spans [op.symbol.toList, l.text]
      (l.meaning.map fun v => .test a.meaning (.compare op v)) :=
    (solid_comparisonOp.spans (operatorText op)).bind ((solid_value.spans l).bind (.pure _))
  have among : Form.comparison ∈ d.forms := by cases d <;> decide
  apply read_query_test among
  · rw [read_rule_attributed rfl, a.read ((solid_attr d).keeps spaced.parted), Option.bind_some]
    exact behind.read spaced
  · intro extended said
    rw [spaced.parted.headWord] at said
    exact free ⟨extended, said⟩

end Queries

end Grammar

namespace Dialect

variable {d : Dialect} {s rest : List Char} {v : Built Filter} {f : Filter}

theorem read_ofList_of_built (fits : d.query.read s = some (v, rest)) :
    d.read (String.ofList s) = v.mapError .value := by
  rw [← String.toList_ofList (l := s)] at fits
  exact read_of_built fits

theorem read_ofList_ne_ok (unfit : d.query.read s = none) : d.read (String.ofList s) ≠ .ok f := by
  intro read
  obtain ⟨rest, fits⟩ := read_eq_ok_iff.mp read
  rw [String.toList_ofList, unfit] at fits
  cases fits

theorem mapError_map_not_eq_ok_iff {fault : ValueFault → Refusal} :
    (v.map .not).mapError fault = .ok f ↔ ∃ g, v.mapError fault = .ok g ∧ f = .not g := by
  cases v with
  | error fault =>
      constructor
      · rintro ⟨⟩
      · rintro ⟨g, ⟨⟩, -⟩
  | ok g =>
      constructor
      · rintro ⟨⟩
        exact ⟨g, rfl, rfl⟩
      · rintro ⟨g, ⟨⟩, rfl⟩
        rfl

/-- A test with NOT inside it is accepted where the same test with NOT before it is, with the same
filter, and that is the negation of the filter without NOT. In the extended dialect, a comparison
that begins with its value is read as the one with its sides exchanged, unless that one begins with
the keyword `include`. -/
theorem read_abbreviated (d : Dialect) (a : Written d.attr) :
    (∀ (c : Clause) (within outside without : List Char), c.Belongs d →
      Spaced (c.words true) within → Spaced (a.text :: c.words false) outside →
      Spaced (c.words false) without → ∀ f,
        (d.read (String.ofList (a.text ++ within)) = .ok f ↔
          d.read (String.ofList ("NOT".toList ++ outside)) = .ok f) ∧
        (d.read (String.ofList (a.text ++ within)) = .ok f ↔
          ∃ g, d.read (String.ofList (a.text ++ without)) = .ok g ∧ f = .not g)) ∧
    (d = extended → a.text.map asciiLower ≠ "include".toList →
      ∀ (l : Written value) (op : Comparison) (behind before : List Char),
        Spaced [op.symbol.toList, a.text] behind →
        Spaced [op.flipped.symbol.toList, l.text] before →
        (∀ (α : Type) [LinearOrder α] (x y : α), op.flipped.Relates x y ↔ op.Relates y x) ∧
        d.read (String.ofList (l.text ++ behind)) = d.read (String.ofList (a.text ++ before))) := by
  constructor
  · intro c within outside without belongs spaced spaced' spaced'' f
    obtain ⟨keyword, name⟩ := read_query_clause a belongs spaced
    obtain ⟨keyword', name'⟩ := read_query_not_clause a belongs spaced'
    obtain ⟨keyword'', name''⟩ := read_query_clause a belongs spaced''
    by_cases included : IsInclude a
    · refine ⟨iff_of_false (read_ofList_ne_ok (keyword included))
        (read_ofList_ne_ok (keyword' included)),
        iff_of_false (read_ofList_ne_ok (keyword included)) ?_⟩
      rintro ⟨g, read, -⟩
      exact read_ofList_ne_ok (keyword'' included) read
    · have negated : (c.predicate.map fun p => Filter.negateIf true (.test a.meaning p)) =
          (c.predicate.map fun p => Filter.negateIf false (.test a.meaning p)).map .not := by
        cases c.predicate <;> rfl
      rw [read_ofList_of_built (name included), read_ofList_of_built (name' included),
        read_ofList_of_built (name'' included), negated]
      exact ⟨Iff.rfl, mapError_map_not_eq_ok_iff⟩
  · rintro rfl other l op behind before spaced spaced'
    have free : ¬ IsInclude a := by
      intro included
      have said := included.2
      rw [headWord, List.takeWhile_eq_self_iff.mpr included.run] at said
      exact other said
    refine ⟨fun _ _ => op.relates_flipped, ?_⟩
    rw [read_ofList_of_built (read_query_reversed l op a spaced),
      read_ofList_of_built (read_query_comparison a op.flipped l free spaced')]

/-- A pattern, and a number before its attribute. -/
theorem read_abbreviated_title :
    extended.read "title NOT LIKE 'a%'" = .ok (.not (.test "title" (.like "a%" false))) ∧
      extended.read "5 < title" = extended.read "title > 5" := by
  let title : Written extended.attr := ⟨"title".toList, "title", by decide +kernel⟩
  let pattern : Written quoted := ⟨"'a%'".toList, "a%", by decide +kernel⟩
  let five : Written value := ⟨"5".toList, .ok (.number "5"), by decide +kernel⟩
  have usable : extended.IsAttribute "title" := by
    refine ⟨⟨⟨'t', "itle".toList, by decide, by decide, ?_⟩, by decide⟩, fun _ => by decide⟩
    exact List.all_eq_true.mp (by decide)
  have positive : extended.read "title LIKE 'a%'" = .ok (.test "title" (.like "a%" false)) :=
    read_of_query (show extended.query.read (Filter.test "title" (.like "a%" false)).render = _ from
      read_query (.test usable fun caseless => by cases caseless))
  obtain ⟨negated, reversed⟩ := read_abbreviated extended title
  have clause : (Clause.like false pattern).Belongs extended := fun caseless => by cases caseless
  have within := (negated (.like false pattern) _ _ _ clause (spaced_flatMap _) (spaced_flatMap _)
    (spaced_flatMap _) (.not (.test "title" (.like "a%" false)))).2.mpr ⟨_, positive, rfl⟩
  have exchanged := (reversed rfl (by decide) five .lt _ _ (spaced_flatMap _) (spaced_flatMap _)).2
  exact ⟨within, exchanged⟩

end Dialect

end RecordSearch
