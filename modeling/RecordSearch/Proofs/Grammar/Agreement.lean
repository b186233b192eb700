import RecordSearch.Proofs.Filter.Asks
import RecordSearch.Proofs.Grammar.Simulation
import RecordSearch.Proofs.Text.Order

/-!
# Where the two dialects agree

A test of the classic dialect is one of the extended dialect too, unless its attribute is `id` or
`include`.  The extended dialect keeps `id` for itself and reads `include` as a keyword, behind
which no test can go on.  So a query that both accept means the same in both.
-/

namespace RecordSearch

open RecordSearch.Grammar RecordSearch.Text
open RecordSearch.Dialect (extended classic gather conjunction disjunction)

namespace Grammar

variable {s rest rest' : List Char} {a a' : Built Filter} {f : Form} {name : String}

section Tests

/-- A name of the classic dialect is one of the extended dialect, unless that keeps it. -/
theorem read_extendedAttribute (read : classicAttribute.read s = some (name, rest))
    (free : headWord s ≠ "id".toList) : extendedAttribute.read s = some (name, rest) := by
  obtain ⟨taken, plain, rfl⟩ := plainName_of_read_classicAttribute read
  obtain ⟨-, ⟨c, later, rfl, start⟩, -, -⟩ := plainName_eq_some plain
  have unquoted : quotedAttribute.read (c :: later) = none := by
    have noQuote : (mark '"').read (c :: later) = none := by
      rw [read_mark, Scan.char_eq_none (by rintro d ⟨⟩; exact ne_of_class start (by decide))]
      rfl
    rw [quotedAttribute, Rule.read_named, Rule.read_bind, noQuote, Option.bind_none]
  have bare : bareName (c :: later) = some (taken, rest) := by
    rw [bareName, keyword_eq_none (by decide) free]
    exact plain
  simp only [extendedAttribute, Rule.read_named, Rule.read_firstOf_cons, unquoted, Option.none_or,
    Rule.read_map, Rule.read_token, bare, Option.map_some, Option.some_or]

theorem behind_caseless (read : (f.behind false name).read s = some (a, rest)) :
    (f.behind true name).read s = some (a, rest) := by
  cases f with
  | like =>
      obtain ⟨negated, mid, first, read⟩ := Rule.read_bind_eq_some.mp read
      obtain ⟨predicate, last, later, done⟩ := Rule.read_bind_eq_some.mp read
      rw [read_next] at later
      obtain ⟨ignoreCase, quote, word, pattern⟩ := Rule.read_bind_eq_some.mp later
      rw [likeWord, if_neg (by decide), Rule.read_firstOf_singleton] at word
      have either : (likeWord true).read (mid.dropWhile isSpace) = some (ignoreCase, quote) := by
        rw [likeWord, Rule.read_firstOf_cons, word, Option.some_or]
      have again : (next (Grammar.like (likeWord true))).read mid = some (predicate, last) := by
        rw [read_next]
        exact Rule.read_bind_eq_some.mpr ⟨ignoreCase, quote, either, pattern⟩
      exact Rule.read_bind_eq_some.mpr
        ⟨negated, mid, first, Rule.read_bind_eq_some.mpr ⟨predicate, last, again, done⟩⟩
  | _ => exact read

theorem read_rule_extended (among : f ∈ classic.forms)
    (read : (f.rule classic).read s = some (a, rest)) (free : headWord s ≠ "id".toList) :
    f ∈ extended.forms ∧ (f.rule extended).read s = some (a, rest) := by
  have each : ∀ f ∈ classic.forms, f ∈ extended.forms ∧ f.attributed = true := by decide
  have both := each f among
  refine ⟨both.1, ?_⟩
  rw [read_rule_attributed both.2, Option.bind_eq_some_iff] at read ⊢
  obtain ⟨⟨name, mid⟩, named, later⟩ := read
  exact ⟨⟨name, mid⟩, read_extendedAttribute named free, behind_caseless later⟩

theorem read_rule_id (same : headWord s = "id".toList) (f : Form) :
    (f.rule extended).read s = none := by
  have unnamed : extendedAttribute.read s = none := by
    have unquoted : quotedAttribute.read s = none := by
      cases read : quotedAttribute.read s with
      | none => rfl
      | some r =>
          rw [quotedAttribute, Rule.read_named] at read
          obtain ⟨u, inside, first, -⟩ := Rule.read_bind_eq_some.mp read
          obtain rfl := read_mark_eq_some.mp first
          cases same
    have reserved : bareName s = none := by
      rw [bareName, keyword_of_headWord same]
      rfl
    simp only [extendedAttribute, Rule.read_named, Rule.read_firstOf_cons, Rule.read_firstOf_nil,
      unquoted, Rule.read_map, Rule.read_token, reserved, Option.map_none, Option.none_or]
  have otherWord {w : String} (letters : IsWord w) (apart : "id".toList ≠ w.toList)
      (rule : Unit → Rule (Built Filter)) : (word w >>= rule).read s = none := by
    rw [Rule.read_bind, read_word_eq_none letters (same ▸ apart), Option.bind_none]
  have attributed (form : f.attributed = true) : (f.rule extended).read s = none := by
    rw [read_rule_attributed form, show extended.attr = extendedAttribute from rfl, unnamed]
    rfl
  cases f with
  | everything => exact otherWord (by decide) (by decide) _
  | nothing => exact otherWord (by decide) (by decide) _
  | identity => exact (Rule.read_named _ s).trans (otherWord (by decide) (by decide) _)
  | reversed =>
      cases read : (Form.reversed.rule extended).read s with
      | none => rfl
      | some r =>
          rw [Form.rule, reversedComparison, Rule.read_named] at read
          obtain ⟨value, mid, first, -⟩ := Rule.read_bind_eq_some.mp read
          obtain ⟨c, later, rfl, start⟩ := head_of_read_value first
          exact absurd same (headWord_ne_of_value (by decide) (by decide) start)
  | _ => exact attributed rfl

theorem not_endsOperand {caseless : Bool}
    (read : (f.behind caseless name).read s = some (a, rest)) : ¬ EndsOperand s := by
  intro ends
  -- What an operand ends with would be taken for an operator, and it is none.
  have word : headWord (s.dropWhile isSpace) = [] ∨ headWord (s.dropWhile isSpace) = "or".toList ∨
      headWord (s.dropWhile isSpace) = "and".toList := by
    rcases ends with (ended | said) | said
    · exact .inl (Shut.headWord_eq_nil ended)
    · exact .inr (.inl said)
    · exact .inr (.inr said)
  have form : Form.ofRest s = .comparison := by
    have positive : headWord (s.dropWhile isSpace) ≠ "not".toList := by
      rcases word with said | said | said <;> rw [said] <;> decide
    rw [Form.ofRest, afterNot, if_neg positive, dropWhile_idempotent]
    rcases word with said | said | said <;> rw [said] <;> decide
  obtain rfl : f = .comparison := (ofRest_of_behind read).symm.trans form
  obtain ⟨op, mid, first, -⟩ := Rule.read_bind_eq_some.mp read
  rw [read_next] at first
  have empty := headWord_of_read_comparisonOp first
  have ended : Shut (s.dropWhile isSpace) := by
    rcases ends with (ended | said) | said
    · exact ended
    · rw [said] at empty
      cases empty
    · rw [said] at empty
      cases empty
  cases text : s.dropWhile isSpace with
  | nil =>
      rw [text] at first
      cases first
  | cons c later =>
      rw [text] at first ended
      rcases ended c rfl with rfl | rfl <;> cases first

theorem mentioned_negateIf (negated : Bool) (name : String) (p : Predicate) :
    (Filter.negateIf negated (.test name p)).mentioned = [name] := by
  cases negated <;> rfl

theorem mentioned_of_behind {caseless : Bool} {g : Filter}
    (read : (f.behind caseless name).read s = some (.ok g, rest)) : g.mentioned = [name] := by
  have mapped (negated : Bool) {p : Built Predicate}
      (made : p.map (fun p => Filter.negateIf negated (.test name p)) = .ok g) :
      g.mentioned = [name] := by
    cases p with
    | error fault => cases made
    | ok p =>
        cases made
        exact mentioned_negateIf negated name p
  have ofNegated {rule : Rule (Built Predicate)}
      (read : (negated name rule).read s = some (.ok g, rest)) : g.mentioned = [name] := by
    rw [read_negated, Option.map_eq_some_iff] at read
    obtain ⟨⟨p, last⟩, -, done⟩ := read
    exact mapped _ (Prod.mk.inj done).1
  cases f with
  | between => exact ofNegated read
  | null =>
      obtain ⟨u, mid, -, read⟩ := Rule.read_bind_eq_some.mp read
      obtain ⟨negated, mid', -, read⟩ := Rule.read_bind_eq_some.mp read
      obtain ⟨u', last, -, done⟩ := Rule.read_bind_eq_some.mp read
      cases done
      exact mentioned_negateIf negated name _
  | like => exact ofNegated read
  | oneOf => exact ofNegated read
  | temporal =>
      obtain ⟨p, mid, -, done⟩ := Rule.read_bind_eq_some.mp read
      have made := (Prod.mk.inj (Option.some.inj done)).1
      exact mapped false made
  | comparison =>
      obtain ⟨op, mid, -, read⟩ := Rule.read_bind_eq_some.mp read
      obtain ⟨v, last, -, done⟩ := Rule.read_bind_eq_some.mp read
      have made := (Prod.mk.inj (Option.some.inj done)).1
      cases v with
      | error fault => cases made
      | ok v =>
          cases made
          rfl
  | _ => cases read

theorem mentioned_of_read_rule {g : Filter} (among : f ∈ classic.forms)
    (read : (f.rule classic).read s = some (.ok g, rest)) :
    ∃ name, g.mentioned = [name] ∧ headWord s = name.toList.map asciiLower := by
  have each : ∀ f ∈ classic.forms, f.attributed = true := by decide
  rw [read_rule_attributed (each f among), Option.bind_eq_some_iff] at read
  obtain ⟨⟨name, mid⟩, named, later⟩ := read
  refine ⟨name, mentioned_of_behind later, ?_⟩
  obtain ⟨taken, plain, rfl⟩ := plainName_of_read_classicAttribute named
  obtain ⟨-, -, rfl, -⟩ := plainName_eq_some plain
  rw [String.toList_ofList]
  rfl

/-- A test that both dialects read is the same in both, if an operand can end behind it. -/
theorem agree_test (among : Form.of classic s ∈ classic.forms)
    (read : ((Form.of classic s).rule classic).read s = some (a, rest))
    (read' : ((Form.of extended s).rule extended).read s = some (a', rest'))
    (ends : EndsOperand rest') : a' = a ∧ rest' = rest := by
  have free : headWord s ≠ "id".toList := by
    intro same
    rw [read_rule_id same] at read'
    cases read'
  obtain ⟨among', again⟩ := read_rule_extended among read free
  by_cases keyword : headWord s = "include".toList
  · -- The classic test goes on behind its attribute, where no operand can end.
    exfalso
    have form : Form.of extended s = .everything := if_pos ⟨rfl, keyword⟩
    have each : ∀ f ∈ classic.forms, f.attributed = true := by decide
    rw [form] at read'
    obtain ⟨u, mid, first, done⟩ := Rule.read_bind_eq_some.mp read'
    cases done
    obtain ⟨-, rfl⟩ := (read_word_eq_some (by decide)).mp first
    rw [read_rule_attributed (each _ among), Option.bind_eq_some_iff] at read
    obtain ⟨⟨name, mid⟩, named, later⟩ := read
    obtain ⟨taken, plain, -⟩ := plainName_of_read_classicAttribute named
    obtain ⟨-, -, -, rfl⟩ := plainName_eq_some plain
    exact not_endsOperand later ends
  · have form : Form.of extended s = Form.of classic s :=
      form_of_read among' (fun _ said => absurd said keyword) again
    rw [form, again] at read'
    cases read'
    exact ⟨rfl, rfl⟩

end Tests

section Agreement

variable {F G : List Char → Prop} {item item' : Rule (Built Filter)} {w : String}
  {items items' : List (Built Filter)}

/-- Two rules read the same where both read a text and leave what `F` says. -/
def Agree (F : List Char → Prop) (rule rule' : Rule (Built Filter)) : Prop :=
  ∀ s a rest a' rest', rule.read s = some (a, rest) → rule'.read s = some (a', rest') →
    F rest → F rest' → a' = a ∧ rest' = rest

theorem Agree.series (agree : Agree F item item')
    (goesOn : ∀ mid next, (word w).read (mid.dropWhile isSpace) = some ((), next) → F mid)
    (weaker : ∀ rest, G rest → F rest)
    (ended : ∀ rest, G rest → (word w).read (rest.dropWhile isSpace) = none)
    (series : Series (word w) item s items rest) (series' : Series (word w) item' s items' rest')
    (ends : G rest) (ends' : G rest') : items' = items ∧ rest' = rest := by
  -- Neither series goes on where the other ends, for no separator stands there.
  induction series generalizing items' with
  | @single s rest a here =>
      cases series' with
      | @single _ _ a' there =>
          obtain ⟨rfl, rfl⟩ := agree s a rest a' _ here there (weaker _ ends) (weaker _ ends')
          exact ⟨rfl, rfl⟩
      | @cons _ mid' next' _ a' others' there stands' later' =>
          obtain ⟨-, rfl⟩ :=
            agree s a rest a' mid' here there (weaker _ ends) (goesOn _ _ stands')
          rw [ended _ ends] at stands'
          cases stands'
  | @cons s mid next rest a others here stands later inductionHypothesis =>
      cases series' with
      | @single _ _ a' there =>
          obtain ⟨-, rfl⟩ := agree s a mid a' _ here there (goesOn _ _ stands) (weaker _ ends')
          rw [ended _ ends'] at stands
          cases stands
      | @cons _ mid' next' _ a' others' there stands' later' =>
          obtain ⟨rfl, rfl⟩ :=
            agree s a mid a' mid' here there (goesOn _ _ stands) (goesOn _ _ stands')
          rw [stands] at stands'
          cases stands'
          obtain ⟨rfl, rfl⟩ := inductionHypothesis later' ends
          exact ⟨rfl, rfl⟩

theorem agree_conjunction (agree : Agree EndsOperand item item') :
    Agree EndsConjunction (conjunction item) (conjunction item') := by
  intro s a rest a' rest' read read' ends ends'
  obtain ⟨parts, series, rfl⟩ := series_of_read_joined read
  obtain ⟨parts', series', rfl⟩ := series_of_read_joined read'
  have goesOn (mid next : List Char)
      (stands : (word "and").read (mid.dropWhile isSpace) = some ((), next)) : EndsOperand mid :=
    .inr ((read_word_eq_some (by decide)).mp stands).1
  obtain ⟨rfl, rfl⟩ := agree.series goesOn (fun _ => .inl) (fun _ ends => ends.read_and) series
    series' ends ends'
  exact ⟨rfl, rfl⟩

theorem agree_disjunction (agree : Agree EndsOperand item item') :
    Agree EndsDisjunction (disjunction item) (disjunction item') := by
  intro s a rest a' rest' read read' ends ends'
  obtain ⟨parts, series, rfl⟩ := series_of_read_joined read
  obtain ⟨parts', series', rfl⟩ := series_of_read_joined read'
  have goesOn (mid next : List Char)
      (stands : (word "or").read (mid.dropWhile isSpace) = some ((), next)) :
      EndsConjunction mid := .inr ((read_word_eq_some (by decide)).mp stands).1
  obtain ⟨rfl, rfl⟩ := (agree_conjunction agree).series goesOn (fun _ => .inl)
    (fun _ ends => ends.read_word (by decide) (by decide)) series series' ends ends'
  exact ⟨rfl, rfl⟩

theorem agree_operand (depth : Nat) :
    Agree EndsOperand (classic.operand depth) (extended.operand depth) := by
  induction depth with
  | zero =>
      intro s a rest a' rest' read
      cases read
  | succ depth inductionHypothesis =>
      intro s a rest a' rest' read read' ends ends'
      cases read_operand_eq_some.mp read with
      | negation b said later =>
          cases read_operand_eq_some.mp read' with
          | negation b' said' later' =>
              obtain ⟨rfl, rfl⟩ := inductionHypothesis _ b rest b' rest' later later' ends ends'
              exact ⟨rfl, rfl⟩
          | bracketed pair' inside' mid' among' opened' held' closed' =>
              rw [opened', headWord_bracket among'] at said
              cases said
          | test among' found' => exact absurd said (testHead_of_read found').positive
      | bracketed pair inside mid among opened held closed =>
          cases read_operand_eq_some.mp read' with
          | negation b' said' later' =>
              rw [opened, headWord_bracket among] at said'
              cases said'
          | bracketed pair' inside' mid' among' opened' held' closed' =>
              obtain ⟨same, rfl⟩ := List.cons.inj (opened.symm.trans opened')
              obtain rfl := bracket_unique among among' same
              have ends : EndsDisjunction mid := by
                rw [EndsDisjunction, closed]
                exact shut_bracket among rest
              have ends' : EndsDisjunction mid' := by
                rw [EndsDisjunction, closed']
                exact shut_bracket among rest'
              obtain ⟨rfl, rfl⟩ := agree_disjunction inductionHypothesis _ a mid a' mid' held held'
                ends ends'
              rw [closed] at closed'
              exact ⟨rfl, (List.cons.inj closed').2.symm⟩
          | test among' found' =>
              subst opened
              exact absurd (testHead_of_read found') (not_testHead_bracket among)
      | test among found =>
          cases read_operand_eq_some.mp read' with
          | negation b' said' later' => exact absurd said' (testHead_of_read found).positive
          | bracketed pair' inside' mid' among' opened' held' closed' =>
              subst opened'
              exact absurd (testHead_of_read found) (not_testHead_bracket among')
          | test among' found' => exact agree_test among found found' ends'

end Agreement

section Unquoted

/-- The characters of a text that do not stand in single quotes. -/
def outside (quoted : Bool) : List Char → List Char
  | [] => []
  | c :: s =>
      if c = '\'' then outside (!quoted) s
      else if quoted then outside quoted s
      else c :: outside quoted s

def unquoted (s : List Char) : List Char := outside false s

/-- An even number of quotes leaves a text as much outside of quotes as before. -/
theorem mem_outside_append {c : Char} {quoted : Bool} {taken : List Char}
    (member : c ∈ outside (quoted ^^ (taken.count '\'' % 2 == 1)) rest) :
    c ∈ outside quoted (taken ++ rest) := by
  induction taken generalizing quoted with
  | nil => simpa using member
  | cons d taken inductionHypothesis =>
      rw [List.cons_append, outside]
      by_cases quote : d = '\''
      · subst quote
        rw [if_pos rfl]
        apply inductionHypothesis
        have turned : (quoted ^^ ((taken.count '\'' + 1) % 2 == 1)) =
            (!quoted ^^ (taken.count '\'' % 2 == 1)) := by
          rcases Nat.mod_two_eq_zero_or_one (taken.count '\'') with even | odd
          · rw [even, Nat.add_mod, even]
            cases quoted <;> rfl
          · rw [odd, Nat.add_mod, odd]
            cases quoted <;> rfl
        rwa [List.count_cons_self, turned] at member
      · rw [List.count_cons_of_ne quote] at member
        rw [if_neg quote]
        cases quoted with
        | true => exact inductionHypothesis member
        | false => exact List.mem_cons_of_mem _ (inductionHypothesis member)

theorem path_unquoted : Path fun s rest => '[' ∉ unquoted s → '[' ∉ unquoted rest where
  even taken rest even free member := by
    apply free
    apply mem_outside_append
    rwa [Nat.mod_eq_zero_of_dvd even]
  trans _ _ _ first second free := second (first free)

end Unquoted

section Carried

/-- A filter that asks nothing about `id` or `include`. -/
def Shared (a : Built Filter) : Prop :=
  ∃ f, a = .ok f ∧ ∀ name ∈ f.mentioned,
    name.toList.map asciiLower ≠ "id".toList ∧ name.toList.map asciiLower ≠ "include".toList

theorem shared_of_gather {combine : List Filter → Filter}
    (connective : combine ∈ [Filter.all, Filter.any]) {parts : List (Built Filter)}
    (shared : Shared (gather combine parts)) : ∀ a ∈ parts, Shared a := by
  obtain ⟨f, gathered, apart⟩ := shared
  obtain ⟨fs, rfl, rfl⟩ := gather_eq_ok gathered
  have within {g : Filter} (member : g ∈ fs) {name : String} (mentioned : name ∈ g.mentioned) :
      name ∈ (combined combine fs).mentioned := by
    have inAll := Filter.mem_mentionedIn_iff.mpr ⟨g, member, mentioned⟩
    rcases fs with _ | ⟨h, _ | ⟨k, others⟩⟩
    · cases member
    · obtain rfl := List.mem_singleton.mp member
      exact mentioned
    · simp only [List.mem_cons, List.not_mem_nil, or_false] at connective
      rcases connective with rfl | rfl
      · exact inAll
      · exact inAll
  intro a member
  obtain ⟨g, among, rfl⟩ := List.mem_map.mp member
  exact ⟨g, rfl, fun name mentioned => apart name (within among mentioned)⟩

/-- What the classic dialect reads without square brackets, and without `id` and `include`, the
extended dialect reads too. -/
theorem carries_classic :
    Carries classic extended [] (fun s => '[' ∉ unquoted s) Shared where
  shut := by rintro c ⟨⟩
  path := path_unquoted
  attr := leaves_classicAttribute path_unquoted
  negated := by
    rintro a ⟨f, negated, apart⟩
    cases a with
    | error fault => cases negated
    | ok g =>
        cases negated
        exact ⟨g, rfl, apart⟩
  gathered combine connective parts shared := shared_of_gather connective shared
  brackets := by
    intro pair among inside free
    rcases mem_brackets among with rfl | rfl
    · exact List.mem_singleton_self _
    · exact absurd List.mem_cons_self free
  test := by
    rintro s _ rest _ ⟨g, rfl, apart⟩ among read
    obtain ⟨name, mentioned, begun⟩ := mentioned_of_read_rule among read
    obtain ⟨notId, notInclude⟩ := apart name (mentioned ▸ List.mem_singleton_self name)
    rw [← begun] at notId notInclude
    obtain ⟨among', again⟩ := read_rule_extended among read notId
    have form : Form.of extended s = Form.of classic s :=
      form_of_read among' (fun _ said => absurd said notInclude) again
    rw [List.append_nil, List.append_nil, form]
    exact ⟨among', again⟩

end Carried

end Grammar

namespace Dialect

variable {q : String}

/-- The grammar of a dialect fits a query, whatever becomes of its values. -/
def Accepts (d : Dialect) (q : String) : Prop :=
  ∀ line column, d.read q ≠ .error (.syntaxError line column)

theorem Accepts.fits {d : Dialect} (accepts : d.Accepts q) :
    ∃ v rest, d.query.read q.toList = some (v, rest) := by
  cases fits : d.query.read q.toList with
  | none =>
      obtain ⟨line, column, failed⟩ := read_of_unfit fits
      exact absurd failed (accepts line column)
  | some r => exact ⟨r.1, r.2, rfl⟩

theorem read_of_accepts (first : extended.Accepts q) (second : classic.Accepts q) :
    extended.read q = classic.read q := by
  obtain ⟨a', rest', fits'⟩ := first.fits
  obtain ⟨a, rest, fits⟩ := second.fits
  rw [read_of_built fits, read_of_built fits']
  obtain ⟨mid, held, blank, -⟩ := read_query_eq_some.mp fits
  obtain ⟨mid', held', blank', -⟩ := read_query_eq_some.mp fits'
  obtain ⟨rfl, -⟩ := agree_disjunction (agree_operand (q.toList.length + 1)) _ a mid a' mid' held
    held' (endsDisjunction_of_blank blank) (endsDisjunction_of_blank blank')
  rfl

theorem read_extended_of_classic {f : Filter} (read : classic.read q = .ok f)
    (square : '[' ∉ unquoted q.toList) (apart : ∀ name ∈ f.mentioned,
      name.toList.map asciiLower ≠ "id".toList ∧ name.toList.map asciiLower ≠ "include".toList) :
    extended.read q = .ok f := by
  obtain ⟨rest, fits⟩ := read_eq_ok_iff.mp read
  obtain ⟨mid, held, blank, -⟩ := read_query_eq_some.mp fits
  have leaves := leaves_operand path_unquoted (leaves_classicAttribute path_unquoted)
    (d := classic) (q.toList.length + 1)
  have each := carries_classic.operand (Nat.le_refl (q.toList.length + 1))
  have carried := carries_classic.disjunction leaves (shortens_operand extended _) each _ _ mid
    (path_unquoted.skip _ square) ⟨f, rfl, apart⟩ (endsDisjunction_of_blank blank) held
  rw [List.append_nil, List.append_nil] at carried
  exact read_eq_ok_iff.mpr ⟨[], read_query_eq_some.mpr ⟨mid, carried, blank, rfl⟩⟩

/-- The two dialects agree on every query that both accept, so that a query with a senseless value
is not read in another way; and the extended dialect reads what the classic one reads, apart from
square brackets and from the names `id` and `include`. -/
theorem dialects_agree (q : String) :
    (extended.Accepts q → classic.Accepts q → extended.read q = classic.read q) ∧
      (∀ fault, extended.read q = .error (.value fault) →
        ∃ refusals, Parsed.ofQuery q chain = .error refusals) ∧
      ∀ f, classic.read q = .ok f → '[' ∉ unquoted q.toList →
        (∀ name ∈ f.attributes, asciiLowerText name ≠ "id" ∧ asciiLowerText name ≠ "include") →
          extended.read q = .ok f := by
  refine ⟨read_of_accepts, ?refused, ?classic⟩
  case refused =>
    intro fault read
    have first : extended.Accepts q := by
      intro line column failed
      rw [read] at failed
      cases failed
    have second : ∃ refusal, classic.read q = .error refusal := by
      by_cases accepts : classic.Accepts q
      · exact ⟨_, (read_of_accepts first accepts).symm.trans read⟩
      · simp only [Accepts, not_forall, not_not] at accepts
        obtain ⟨line, column, failed⟩ := accepts
        exact ⟨_, failed⟩
    obtain ⟨refusal, failed⟩ := second
    refine ⟨[(extended, .value fault), (classic, refusal)], ?_⟩
    simp only [chain, Parsed.ofQuery, read, failed]
  case classic =>
    intro f read square apart
    refine read_extended_of_classic read square fun name mentioned => ?_
    have lowered (word : String) (other : asciiLowerText name ≠ word) :
        name.toList.map asciiLower ≠ word.toList := by
      intro same
      apply other
      rw [asciiLowerText, same, String.ofList_toList]
    obtain ⟨notId, notInclude⟩ := apart name (mem_textSet.mpr mentioned)
    exact ⟨lowered "id" notId, lowered "include" notInclude⟩

/-- A date that is none is refused by both, and a square bracket within a text is no bracket. -/
theorem dialects_agree_quoted :
    (extended.Accepts "day > 2020-13-01" ∧ classic.Accepts "day > 2020-13-01" ∧
      extended.read "day > 2020-13-01" = .error (.value (.invalidDate "2020-13-01")) ∧
      extended.read "day > 2020-13-01" = classic.read "day > 2020-13-01" ∧
      ∃ refusals, Parsed.ofQuery "day > 2020-13-01" chain = .error refusals) ∧
    classic.read "state LIKE 'a[%'" = .ok (.test "state" (.like "a[%" false)) ∧
      '[' ∉ unquoted "state LIKE 'a[%'".toList ∧
      extended.read "state LIKE 'a[%'" = .ok (.test "state" (.like "a[%" false)) := by
  have invalid (d : Dialect) :
      d.read "day > 2020-13-01" = .error (.value (.invalidDate "2020-13-01")) := by
    have faulty : (d.query.read "day > 2020-13-01".toList).map (fun r =>
        match r.1 with
        | .error fault => some fault
        | .ok _ => none) = some (some (.invalidDate "2020-13-01")) := by
      cases d <;> decide +kernel
    rw [Option.map_eq_some_iff] at faulty
    obtain ⟨⟨v, rest⟩, fits, fault⟩ := faulty
    rw [read_of_built fits]
    cases v with
    | ok f => cases fault
    | error fault' =>
        cases fault
        rfl
  have accepts (d : Dialect) : d.Accepts "day > 2020-13-01" := by
    intro line column failed
    rw [invalid d] at failed
    cases failed
  have state : classic.IsAttribute "state" := by
    refine ⟨⟨⟨'s', "tate".toList, by decide, by decide, ?_⟩, by decide⟩, fun _ => by decide⟩
    exact List.all_eq_true.mp (by decide)
  have pattern : classic.read "state LIKE 'a[%'" = .ok (.test "state" (.like "a[%" false)) :=
    read_of_query
      (show classic.query.read (Filter.test "state" (.like "a[%" false)).render = _ from
        read_query (.test state fun caseless => by cases caseless))
  have square : '[' ∉ unquoted "state LIKE 'a[%'".toList := by decide
  refine ⟨⟨accepts extended, accepts classic, invalid extended, ?_, ?_⟩, pattern, square, ?_⟩
  · exact (dialects_agree _).1 (accepts extended) (accepts classic)
  · exact (dialects_agree _).2.1 _ (invalid extended)
  · exact (dialects_agree _).2.2 _ pattern square (by decide)

end Dialect

end RecordSearch
