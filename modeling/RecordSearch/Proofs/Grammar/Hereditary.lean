import RecordSearch.Proofs.Grammar.Form

/-!
# Properties that tests have from the words that they are made of

A property of rules that words have, and that passes from rules to the rules made of them, is one of
every test of a dialect whose attributes have it.
-/

namespace RecordSearch.Grammar

/-- A property that passes from rules to those made of them. A choice between rules has it only
where the first word tells which of them can read a text. -/
structure Hereditary (P : (α : Type) → Rule α → Prop) : Prop where
  pure : ∀ {α : Type} (a : α), P α (Pure.pure a)
  bind : ∀ {α β : Type} {rule : Rule α} {f : α → Rule β}, P α rule → (∀ a, P β (f a)) →
    P β (rule >>= f)
  named : ∀ {α : Type} {rule : Rule α}, P α rule → P α rule.named
  next : ∀ {α : Type} {rule : Rule α}, P α rule → P α (Grammar.next rule)
  firstOf_singleton : ∀ {α : Type} {rule : Rule α}, P α rule → P α (Rule.firstOf [rule])
  firstOf_words : ∀ {α : Type} {w : String} {rule : Unit → Rule α} {rules : List (Rule α)},
    IsWord w → (∀ u, P α (rule u)) → P α (Rule.firstOf rules) →
      (∀ s x, (Rule.firstOf rules).read s = some x → headWord s ≠ w.toList) →
        P α (Rule.firstOf ((Grammar.word w >>= rule) :: rules))
  listOf : ∀ {α : Type} {item : Rule α}, P α item →
    item.Leaves (fun s rest => rest.length ≤ s.length) → P (List α) (Grammar.listOf item)
  word : ∀ {w : String}, IsWord w → P Unit (Grammar.word w)
  not : P Bool (Rule.present (Grammar.word "not"))
  slash : P Unit (mark '/')
  comparisonOp : P Comparison Grammar.comparisonOp
  quoted : P String Grammar.quoted
  date : P _ Grammar.date
  value : P _ Grammar.value

variable {P : (α : Type) → Rule α → Prop} {attr : Rule String}

section Predicates

theorem hereditary_period (passes : Hereditary P) : P _ period := by
  apply passes.named
  refine passes.bind passes.date fun start => ?_
  refine passes.bind (passes.next passes.slash) fun _ => ?_
  exact passes.bind (passes.next passes.date) fun stop => passes.pure _

theorem hereditary_likeWord (passes : Hereditary P) (caseless : Bool) :
    P _ (likeWord caseless) := by
  have ends {w : String} (letters : IsWord w) (b : Bool) : P _ (do word w; return b : Rule Bool) :=
    passes.bind (passes.word letters) fun _ => passes.pure b
  cases caseless with
  | false => exact passes.firstOf_singleton (ends (by decide) false)
  | true =>
      refine passes.firstOf_words (by decide) (fun _ => passes.pure false)
        (passes.firstOf_singleton (ends (by decide) true)) fun s x read => ?_
      rw [if_pos rfl, Rule.read_firstOf_singleton] at read
      rw [headWord_of_read_bind (by decide) read]
      decide

theorem hereditary_like (passes : Hereditary P) (caseless : Bool) :
    P _ (like (likeWord caseless)) := by
  refine passes.bind (hereditary_likeWord passes caseless) fun ignoreCase => ?_
  exact passes.bind (passes.next passes.quoted) fun pattern => passes.pure _

theorem hereditary_between (passes : Hereditary P) : P _ between := by
  refine passes.bind (passes.word (by decide)) fun _ => ?_
  refine passes.bind (passes.next passes.value) fun lower => ?_
  refine passes.bind (passes.next (passes.word (by decide))) fun _ => ?_
  exact passes.bind (passes.next passes.value) fun upper => passes.pure _

theorem hereditary_inList (passes : Hereditary P) : P _ inList := by
  refine passes.bind (passes.word (by decide)) fun _ => ?_
  have list := passes.listOf passes.value (leaves_value path_length)
  exact passes.bind (passes.next list) fun values => passes.pure _

end Predicates

section Tests

theorem hereditary_constant (passes : Hereditary P) {w : String} (letters : IsWord w)
    (f : Filter) : P _ (constant w f) :=
  passes.bind (passes.word letters) fun _ => passes.pure _

theorem hereditary_identityIn (passes : Hereditary P) : P _ identityIn := by
  apply passes.named
  refine passes.bind (passes.word (by decide)) fun _ => ?_
  have list := passes.listOf passes.quoted (leaves_quoted path_length)
  exact passes.bind (passes.next list) fun texts => passes.pure _

theorem hereditary_negatable (passes : Hereditary P) (first : P _ attr)
    {rule : Rule (Built Predicate)} (later : P _ rule) : P _ (negatable attr rule) := by
  apply passes.named
  refine passes.bind first fun name => ?_
  refine passes.bind (passes.next passes.not) fun negated => ?_
  exact passes.bind (passes.next later) fun predicate => passes.pure _

theorem hereditary_nullCheck (passes : Hereditary P) (first : P _ attr) :
    P _ (nullCheck attr) := by
  apply passes.named
  refine passes.bind first fun name => ?_
  refine passes.bind (passes.next (passes.word (by decide))) fun _ => ?_
  refine passes.bind (passes.next passes.not) fun negated => ?_
  exact passes.bind (passes.next (passes.word (by decide))) fun _ => passes.pure _

theorem hereditary_temporal (passes : Hereditary P) (first : P _ attr) : P _ (temporal attr) := by
  have side : P _ (Rule.firstOf
      [do word "before"; return false, do word "after"; return true] : Rule Bool) := by
    refine passes.firstOf_words (by decide) (fun _ => passes.pure false)
      (passes.firstOf_singleton (passes.bind (passes.word (by decide)) fun _ => passes.pure true))
      fun s x read => ?_
    rw [Rule.read_firstOf_singleton] at read
    rw [headWord_of_read_bind (by decide) read]
    decide
  apply passes.named
  refine passes.bind first fun name => passes.bind (passes.next (passes.firstOf_words (by decide)
    (fun _ => ?during) (passes.firstOf_singleton (passes.bind side fun later => ?point)) ?apart))
    fun predicate => passes.pure _
  case during => exact passes.bind (passes.next (hereditary_period passes)) fun _ => passes.pure _
  case point => exact passes.bind (passes.next passes.date) fun _ => passes.pure _
  case apart =>
    intro s x read
    rw [Rule.read_firstOf_singleton] at read
    obtain ⟨later, last, either, -⟩ := Rule.read_bind_eq_some.mp read
    rcases Rule.read_firstOf_pair_eq_some.mp either with before | ⟨-, after⟩
    · rw [headWord_of_read_bind (by decide) before]
      decide
    · rw [headWord_of_read_bind (by decide) after]
      decide

theorem hereditary_comparison (passes : Hereditary P) (first : P _ attr) :
    P _ (comparison attr) := by
  apply passes.named
  refine passes.bind first fun name => ?_
  refine passes.bind (passes.next passes.comparisonOp) fun op => ?_
  exact passes.bind (passes.next passes.value) fun value => passes.pure _

theorem hereditary_reversedComparison (passes : Hereditary P) (last : P _ attr) :
    P _ (reversedComparison attr) := by
  apply passes.named
  refine passes.bind passes.value fun value => ?_
  refine passes.bind (passes.next passes.comparisonOp) fun op => ?_
  exact passes.bind (passes.next last) fun name => passes.pure _

theorem hereditary_rule (passes : Hereditary P) {d : Dialect} (attr : P _ d.attr) (f : Form) :
    P _ (f.rule d) := by
  cases f with
  | everything => exact hereditary_constant passes (by decide) _
  | nothing => exact hereditary_constant passes (by decide) _
  | identity => exact hereditary_identityIn passes
  | between => exact hereditary_negatable passes attr (hereditary_between passes)
  | null => exact hereditary_nullCheck passes attr
  | like => exact hereditary_negatable passes attr (hereditary_like passes _)
  | oneOf => exact hereditary_negatable passes attr (hereditary_inList passes)
  | temporal => exact hereditary_temporal passes attr
  | comparison => exact hereditary_comparison passes attr
  | reversed => exact hereditary_reversedComparison passes attr

end Tests

section Operands

variable {R : List Char → List Char → Prop}

theorem hereditary_leaves (path : Path R) : Hereditary fun _ rule => rule.Leaves R where
  pure a := .pure path a
  bind first later := .bind path first later
  named leaves := leaves.named
  next leaves := leaves.next path
  firstOf_singleton leaves := .firstOf (List.forall_mem_singleton.mpr leaves)
  firstOf_words letters each others _ :=
    .firstOf_cons (.bind path (leaves_word path letters) each) others
  listOf leaves _ := leaves_listOf path leaves
  word letters := leaves_word path letters
  not := .present path (leaves_word path (by decide))
  slash := leaves_mark path (by decide)
  comparisonOp := leaves_comparisonOp path
  quoted := leaves_quoted path
  date := leaves_date path
  value := leaves_value path

theorem leaves_operand (path : Path R) {d : Dialect} (attr : d.attr.Leaves R) (depth : Nat) :
    (d.operand depth).Leaves R := by
  induction depth with
  | zero =>
      intro s a rest read
      cases read
  | succ depth inductionHypothesis =>
      intro s a rest read
      refine Rule.Leaves.named (.firstOf ?_) s a rest read
      intro rule member
      rcases List.mem_cons.mp member with rfl | member
      · refine .bind path (leaves_word path (by decide)) fun _ => ?_
        exact .bind path (.next path inductionHypothesis) fun f => .pure path _
      rcases List.mem_append.mp member with bracket | test
      · obtain ⟨pair, among, rfl⟩ := List.mem_map.mp bracket
        have unquoted := unquoted_of_mem_brackets among
        refine .bind path (leaves_mark path unquoted.1) fun _ => ?_
        refine .bind path (.next path (leaves_disjunction path inductionHypothesis)) fun f => ?_
        exact .bind path (.next path (leaves_mark path unquoted.2)) fun _ => .pure path _
      · rw [tests_eq] at test
        obtain ⟨f, -, rfl⟩ := List.mem_map.mp test
        exact hereditary_rule (hereditary_leaves path) attr f

theorem shortens_operand (d : Dialect) (depth : Nat) :
    (d.operand depth).Leaves fun s rest => rest.length ≤ s.length := by
  apply leaves_operand path_length
  cases d with
  | extended => exact leaves_extendedAttribute
  | classic => exact leaves_classicAttribute path_length

end Operands

end RecordSearch.Grammar
