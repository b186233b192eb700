import RecordSearch.Proofs.Filter.Asks
import RecordSearch.Proofs.Grammar.Form

/-!
# Grammars with other attributes

The grammar of a dialect takes an attribute from the rule for attributes and looks into it no
further.  So another rule that reads the same attributes under other names leads to the same filters
under these names.
-/

namespace RecordSearch

open RecordSearch.Grammar
open RecordSearch.Dialect (gather conjunction disjunction negation bracketed)

namespace Filter

variable {g : String → String} {name : String} {f : Filter}

mutual

def rename (g : String → String) : Filter → Filter
  | everything => everything
  | nothing => nothing
  | all fs => all (renameAll g fs)
  | any fs => any (renameAll g fs)
  | not f => not (rename g f)
  | test name p => test (g name) p

def renameAll (g : String → String) : List Filter → List Filter
  | [] => []
  | f :: fs => rename g f :: renameAll g fs

end

theorem renameAll_eq_map (fs : List Filter) : renameAll g fs = fs.map (rename g) := by
  induction fs with
  | nil => rfl
  | cons f fs inductionHypothesis => rw [renameAll, inductionHypothesis, List.map_cons]

theorem rename_negateIf (negated : Bool) (p : Predicate) :
    (negateIf negated (test name p)).rename g = negateIf negated (test (g name) p) := by
  cases negated <;> rfl

theorem eq_of_rename_eq_self (same : f.rename g = f) (asks : f.Asks name) : g name = name := by
  have members {fs : List Filter} (same : renameAll g fs = fs) : ∀ f ∈ fs, f.rename g = f := by
    rw [renameAll_eq_map] at same
    exact List.map_inj_left.mp (same.trans fs.map_id.symm)
  induction asks with
  | test p => exact (test.inj same).1
  | all member _ inductionHypothesis =>
      exact inductionHypothesis (members (all.inj same) _ member)
  | any member _ inductionHypothesis =>
      exact inductionHypothesis (members (any.inj same) _ member)
  | not _ inductionHypothesis => exact inductionHypothesis (not.inj same)

end Filter

namespace Grammar

section Maps

variable {α α' β β' : Type} {φ : α → α'} {ψ : β → β'} {rule : Rule α} {rule' : Rule α'}

/-- A rule reads what another one reads, with values that correspond to those of the other. -/
def Rule.Maps (φ : α → α') (rule : Rule α) (rule' : Rule α') : Prop :=
  ∀ s, rule'.read s = (rule.read s).map fun r => (φ r.1, r.2)

namespace Rule.Maps

theorem refl (rule : Rule α) : Maps id rule rule := by
  intro s
  cases rule.read s <;> rfl

theorem pure {a : α} {a' : α'} (same : a' = φ a) : Maps φ (pure a) (Pure.pure a') := by
  intro s
  rw [same]
  rfl

theorem bind {f : α → Rule β} {f' : α' → Rule β'} (first : Maps φ rule rule')
    (later : ∀ a, Maps ψ (f a) (f' (φ a))) : Maps ψ (rule >>= f) (rule' >>= f') := by
  intro s
  rw [read_bind, read_bind, first s]
  cases rule.read s with
  | none => rfl
  | some r => exact later r.1 r.2

/-- What comes first is the same rule. -/
theorem after {f : α → Rule β} {f' : α → Rule β'} (rule : Rule α)
    (later : ∀ a, Maps ψ (f a) (f' a)) : Maps ψ (rule >>= f) (rule >>= f') :=
  bind (refl rule) later

theorem map {g : α → β} {g' : α' → β'} (maps : Maps φ rule rule')
    (same : ∀ a, g' (φ a) = ψ (g a)) : Maps ψ (g <$> rule) (g' <$> rule') := by
  intro s
  rw [read_map, read_map, maps s]
  cases rule.read s with
  | none => rfl
  | some r => exact congrArg (fun b => some (b, r.2)) (same r.1)

theorem named (maps : Maps φ rule rule') : Maps φ rule.named rule'.named := by
  intro s
  rw [read_named, read_named]
  exact maps s

theorem next (maps : Maps φ rule rule') : Maps φ (Grammar.next rule) (Grammar.next rule') := by
  intro s
  rw [read_next, read_next]
  exact maps _

theorem firstOf {rules : List (Rule α)} {rules' : List (Rule α')}
    (each : List.Forall₂ (Maps φ) rules rules') :
    Maps φ (Rule.firstOf rules) (Rule.firstOf rules') := by
  intro s
  induction each with
  | nil => rfl
  | @cons rule rule' rules rules' first _ inductionHypothesis =>
      rw [read_firstOf_cons, read_firstOf_cons, first s, inductionHypothesis]
      cases rule.read s <;> rfl

theorem upTo (maps : Maps φ rule rule') (limit : Nat) :
    Maps (List.map φ) (Rule.upTo rule limit) (Rule.upTo rule' limit) := by
  intro s
  induction limit generalizing s with
  | zero => rfl
  | succ limit inductionHypothesis =>
      rw [read_upTo_succ, read_upTo_succ, maps s]
      cases rule.read s with
      | none => rfl
      | some r =>
          simp only [Option.map_some, Option.bind_some, inductionHypothesis]
          cases (Rule.upTo rule limit).read r.2 <;> rfl

theorem many (maps : Maps φ rule rule') : Maps (List.map φ) (Rule.many rule) (Rule.many rule') :=
  fun s => maps.upTo (s.length + 1) s

theorem separated (separator : Rule Unit) (maps : Maps φ rule rule') :
    Maps (List.map φ) (Grammar.separated separator rule) (Grammar.separated separator rule') :=
  bind maps fun _ => bind (many (next (after separator fun _ => next maps))) fun _ => pure rfl

end Rule.Maps

end Maps

def Form.ruleWith (caseless : Bool) (attr : Rule String) : Form → Rule (Built Filter)
  | everything => constant "include" .everything
  | nothing => constant "exclude" .nothing
  | identity => identityIn
  | between => negatable attr Grammar.between
  | null => nullCheck attr
  | like => negatable attr (Grammar.like (likeWord caseless))
  | oneOf => negatable attr inList
  | temporal => Grammar.temporal attr
  | comparison => Grammar.comparison attr
  | reversed => reversedComparison attr

end Grammar

namespace Dialect

variable (d : Dialect)

def operandWith (attr : Rule String) : Nat → Rule (Built Filter)
  | 0 => Rule.fail
  | depth + 1 => fun s =>
    Rule.named (Rule.firstOf (negation (operandWith attr depth) ::
      (d.brackets.map (bracketed (disjunction (operandWith attr depth))) ++
        d.forms.map (Form.ruleWith d.caseless attr)))) s

def queryWith (attr : Rule String) : Rule (Built Filter) := Rule.named fun s =>
  (do
    let f ← next (disjunction (d.operandWith attr (s.length + 1)))
    next endOfText
    return f : Rule (Built Filter)) s

theorem operandWith_attr : d.operandWith d.attr = d.operand := by
  have forms : d.forms.map (Form.ruleWith d.caseless d.attr) = d.tests := by cases d <;> rfl
  funext depth
  induction depth with
  | zero => rfl
  | succ depth inductionHypothesis =>
      rw [operandWith, inductionHypothesis, forms, operand]

theorem queryWith_attr : d.queryWith d.attr = d.query := by
  rw [queryWith, operandWith_attr]
  rfl

end Dialect

namespace Grammar

variable {g : String → String} {attr attr' : Rule String}

def renamed (g : String → String) : Built Filter → Built Filter := Except.map (Filter.rename g)

section Tests

theorem maps_negatable (maps : Rule.Maps g attr attr') (rule : Rule (Built Predicate)) :
    Rule.Maps (renamed g) (negatable attr rule) (negatable attr' rule) := by
  refine .named (.bind maps fun name => ?_)
  refine .after _ fun negated => .after _ fun predicate => .pure ?_
  cases predicate with
  | error fault => rfl
  | ok p => exact congrArg Except.ok (Filter.rename_negateIf negated _).symm

theorem maps_nullCheck (maps : Rule.Maps g attr attr') :
    Rule.Maps (renamed g) (nullCheck attr) (nullCheck attr') := by
  refine .named (.bind maps fun name => .after _ fun _ => ?_)
  refine .after _ fun negated => .after _ fun _ => .pure ?_
  exact congrArg Except.ok (Filter.rename_negateIf negated _).symm

theorem maps_temporal (maps : Rule.Maps g attr attr') :
    Rule.Maps (renamed g) (temporal attr) (temporal attr') := by
  refine .named (.bind maps fun name => .after _ fun predicate => .pure ?_)
  cases predicate <;> rfl

theorem maps_comparison (maps : Rule.Maps g attr attr') :
    Rule.Maps (renamed g) (comparison attr) (comparison attr') := by
  refine .named (.bind maps fun name => .after _ fun op => .after _ fun value => .pure ?_)
  cases value <;> rfl

theorem maps_reversedComparison (maps : Rule.Maps g attr attr') :
    Rule.Maps (renamed g) (reversedComparison attr) (reversedComparison attr') := by
  refine .named (.after _ fun value => .after _ fun op => .bind maps.next fun name => .pure ?_)
  cases value <;> rfl

theorem maps_ruleWith (caseless : Bool) (maps : Rule.Maps g attr attr')
    (identity : g identityName = identityName) (f : Form) :
    Rule.Maps (renamed g) (f.ruleWith caseless attr) (f.ruleWith caseless attr') := by
  cases f with
  | everything | nothing => exact .after _ fun _ => .pure rfl
  | identity =>
      refine .named (.after _ fun _ => .after _ fun texts => .pure ?_)
      rw [renamed, Except.map, Filter.rename, identity]
  | between | like | oneOf => exact maps_negatable maps _
  | null => exact maps_nullCheck maps
  | temporal => exact maps_temporal maps
  | comparison => exact maps_comparison maps
  | reversed => exact maps_reversedComparison maps

end Tests

section Operands

variable {inner inner' : Rule (Built Filter)}

theorem gather_renamed {combine : List Filter → Filter}
    (within : ∀ fs, (combine fs).rename g = combine (fs.map (Filter.rename g)))
    (parts : List (Built Filter)) :
    gather combine (parts.map (renamed g)) = renamed g (gather combine parts) := by
  have each : (parts.map (renamed g)).mapM id =
      Except.map (List.map (Filter.rename g)) (parts.mapM id) := by
    induction parts with
    | nil => rfl
    | cons part parts inductionHypothesis =>
        rw [List.map_cons, List.mapM_cons, List.mapM_cons, inductionHypothesis]
        cases part with
        | error fault => rfl
        | ok f => cases parts.mapM id <;> rfl
  rw [gather, gather, each]
  cases parts.mapM id with
  | error fault => rfl
  | ok fs =>
      rcases fs with _ | ⟨f, _ | ⟨f', fs⟩⟩
      · exact congrArg Except.ok (within []).symm
      · rfl
      · exact congrArg Except.ok (within (f :: f' :: fs)).symm

theorem maps_conjunction (maps : Rule.Maps (renamed g) inner inner') :
    Rule.Maps (renamed g) (conjunction inner) (conjunction inner') := by
  refine .named (.map (.separated _ maps) (gather_renamed fun fs => ?_))
  rw [Filter.rename, Filter.renameAll_eq_map]

theorem maps_disjunction (maps : Rule.Maps (renamed g) inner inner') :
    Rule.Maps (renamed g) (disjunction inner) (disjunction inner') := by
  refine .named (.map (.separated _ (maps_conjunction maps)) (gather_renamed fun fs => ?_))
  rw [Filter.rename, Filter.renameAll_eq_map]

theorem maps_operandWith (d : Dialect) (maps : Rule.Maps g attr attr')
    (identity : g identityName = identityName) (depth : Nat) :
    Rule.Maps (renamed g) (d.operandWith attr depth) (d.operandWith attr' depth) := by
  induction depth with
  | zero => exact fun s => rfl
  | succ depth inductionHypothesis =>
      refine .named (.firstOf (.cons ?negation (List.rel_append ?brackets ?tests)))
      case negation =>
        refine .after _ fun _ => .bind inductionHypothesis.next fun f => .pure ?_
        cases f <;> rfl
      case brackets =>
        refine List.forall₂_map_left_iff.mpr (List.forall₂_map_right_iff.mpr ?_)
        refine List.forall₂_same.mpr fun pair _ => .after _ fun _ => ?_
        exact .bind (maps_disjunction inductionHypothesis).next fun f => .after _ fun _ => .pure rfl
      case tests =>
        refine List.forall₂_map_left_iff.mpr (List.forall₂_map_right_iff.mpr ?_)
        exact List.forall₂_same.mpr fun f _ => maps_ruleWith d.caseless maps identity f

theorem read_queryWith_eq (d : Dialect) (s : List Char) :
    (d.queryWith attr).read s =
      (next (disjunction (d.operandWith attr (s.length + 1))) >>= fun f =>
        next endOfText >>= fun _ => pure f : Rule (Built Filter)).read s := by
  unfold Dialect.queryWith
  exact (Rule.read_named _ s).trans (read_chosen (fun s =>
    next (disjunction (d.operandWith attr (s.length + 1))) >>= fun f =>
      next endOfText >>= fun _ => pure f) s)

/-- The grammar only passes attributes on. -/
theorem maps_queryWith (d : Dialect) (maps : Rule.Maps g attr attr')
    (identity : g identityName = identityName) :
    Rule.Maps (renamed g) (d.queryWith attr) (d.queryWith attr') := by
  intro s
  rw [read_queryWith_eq, read_queryWith_eq]
  have operands := maps_operandWith d maps identity (s.length + 1)
  generalize d.operandWith attr (s.length + 1) = operand at operands ⊢
  generalize d.operandWith attr' (s.length + 1) = operand' at operands ⊢
  have ended (f : Built Filter) : Rule.Maps (renamed g)
      (next endOfText >>= fun _ => pure f) (next endOfText >>= fun _ => pure (renamed g f)) :=
    .after _ fun _ => .pure rfl
  exact Rule.Maps.bind (maps_disjunction operands).next ended s

end Operands

end Grammar

end RecordSearch
