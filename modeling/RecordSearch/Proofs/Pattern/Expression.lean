import Mathlib.Data.List.Forall2
import RecordSearch.Proofs.Pattern.Matches
import RecordSearch.Proofs.Text.Case

/-!
# Patterns as regular expressions

An index is given the text of a regular expression and reads it on its own.  `Expression.read` takes
such a text apart as a search engine does, as far as it needs to know operators: a full stop is any
character but a line feed, a star repeats what stands before it, brackets hold the members of a set,
and a backslash takes the meaning from the sign behind it.  It does not read texts with any other
operator.  What a pattern stands for is what its text is read as.
-/

namespace RecordSearch

inductive Expression.Atom where
  | char (c : Char)
  | dot
  | oneOf (members : List Char)

structure Expression.Piece where
  atom : Expression.Atom
  repeated : Bool

/-- A regular expression, part after part. -/
abbrev Expression := List Expression.Piece

namespace Expression

def Atom.Admits : Atom → Char → Prop
  | char d, c => c = d
  | dot, c => c ≠ '\n'
  | oneOf members, c => c ∈ members

/-- The texts that a part stands for. -/
def Piece.Stands (piece : Piece) (text : List Char) : Prop :=
  if piece.repeated then ∀ c ∈ text, piece.atom.Admits c
  else ∃ c, text = [c] ∧ piece.atom.Admits c

/-- An expression stands for the texts that fall into parts it stands for, one after another. -/
def Stands (e : Expression) (s : List Char) : Prop :=
  ∃ texts, s = texts.flatten ∧ List.Forall₂ Piece.Stands e texts

/-- Where a reader is: after a part, behind a backslash, or in a set with some members. -/
inductive Reader where
  | between (read : Expression)
  | escaping (read : Expression)
  | inSet (read : Expression) (members : List Char)

/-- Signs that have a meaning of their own outside of sets, besides the backslash, the bracket that
opens a set, the full stop and the star. -/
def operators : List Char :=
  ['+', '?', '(', ')', '|', Char.ofNat 0x7B, '^', '$']

def setOperators : List Char := ['[', ']', '\\', '^', '-', '&', '~']

def escapable : List Char :=
  ['\\', '.', '+', '*', '?', '(', ')', '|', '[', ']', Char.ofNat 0x7B, Char.ofNat 0x7D, '^', '$',
    '#', '&', '-', '~']

/-- Puts a star behind the last part. -/
def star? (e : Expression) : Option Expression :=
  match e.getLast? with
  | some ⟨atom, false⟩ => some (e.dropLast ++ [⟨atom, true⟩])
  | _ => none

namespace Reader

def step : Reader → Char → Option Reader
  | between e, c =>
      if c = '\\' then some (escaping e)
      else if c = '[' then some (inSet e [])
      else if c = '.' then some (between (e ++ [⟨.dot, false⟩]))
      else if c = '*' then (star? e).map between
      else if c ∈ operators then none
      else some (between (e ++ [⟨.char c, false⟩]))
  | escaping e, c => if c ∈ escapable then some (between (e ++ [⟨.char c, false⟩])) else none
  | inSet e members, c =>
      if c = ']' then
        if members = [] then none else some (between (e ++ [⟨.oneOf members, false⟩]))
      else if c ∈ setOperators then none
      else some (inSet e (members ++ [c]))

/-- What was read, at the end of a text. -/
def result? : Reader → Option Expression
  | between e => some e
  | _ => none

end Reader

def read (text : List Char) : Option Expression :=
  (text.foldlM Reader.step (.between [])).bind Reader.result?

/-- An engine matches whole values.  It conforms if it takes every text that is read here for what
it is read as. -/
def Conforms (engine : String → List Char → Prop) : Prop :=
  ∀ text e, read text.toList = some e → ∀ s, engine text s ↔ e.Stands s

end Expression

namespace Pattern

open Expression (Piece Reader)

variable {item : Item} {p : Pattern} {c d : Char} {s : List Char}

def Item.piece : Item → Piece
  | .char c => ⟨.char c, false⟩
  | .either c d => ⟨.oneOf [c, d], false⟩
  | .any => ⟨.dot, false⟩
  | .run => ⟨.dot, true⟩

/-- The members of a set have no meaning of their own there. -/
def Item.Readable : Item → Prop
  | .either c d => c ∉ Expression.setOperators ∧ d ∉ Expression.setOperators
  | _ => True

instance : DecidablePred Item.Readable
  | .either c d =>
      inferInstanceAs (Decidable (c ∉ Expression.setOperators ∧ d ∉ Expression.setOperators))
  | .char _ => .isTrue trivial
  | .any => .isTrue trivial
  | .run => .isTrue trivial

theorem mem_escapable_of_isSpecial (special : isSpecial c = true) : c ∈ Expression.escapable := by
  rw [isSpecial, List.contains_iff_mem] at special
  exact List.mem_append_left ['#', '&', '-', '~'] special

theorem step_of_not_isSpecial (plain : isSpecial c = false) (e : Expression) :
    (Reader.between e).step c = some (.between (e ++ [⟨.char c, false⟩])) := by
  have other : ∀ d, isSpecial d = true → c ≠ d := by
    rintro d special rfl
    rw [plain] at special
    cases special
  have unused : c ∉ Expression.operators := by
    intro used
    have special : Expression.operators.all isSpecial = true := by decide
    exact other c (List.all_eq_true.mp special c used) rfl
  rw [Reader.step, if_neg (other '\\' rfl), if_neg (other '[' rfl), if_neg (other '.' rfl),
    if_neg (other '*' rfl), if_neg unused]

theorem step_of_member {members : List Char} (plain : c ∉ Expression.setOperators)
    (e : Expression) : (Reader.inSet e members).step c = some (.inSet e (members ++ [c])) := by
  have closing : ']' ∈ Expression.setOperators := by decide
  have apart : c ≠ ']' := ne_of_mem_of_not_mem closing plain |>.symm
  rw [Reader.step, if_neg apart, if_neg plain]

theorem star?_concat (e : Expression) (atom : Expression.Atom) :
    Expression.star? (e ++ [⟨atom, false⟩]) = some (e ++ [⟨atom, true⟩]) := by
  rw [Expression.star?, List.getLast?_concat, List.dropLast_concat]

theorem foldlM_source (readable : item.Readable) (e : Expression) :
    item.source.foldlM Reader.step (.between e) = some (.between (e ++ [item.piece])) := by
  cases item with
  | char c =>
      cases special : isSpecial c with
      | true =>
          have opened : (Reader.between e).step '\\' = some (.escaping e) := rfl
          have escaped :
              (Reader.escaping e).step c = some (.between (e ++ [⟨.char c, false⟩])) := by
            rw [Reader.step, if_pos (mem_escapable_of_isSpecial special)]
          simp only [Item.source, special, if_true, List.foldlM_cons, List.foldlM_nil,
            Option.bind_eq_bind, Option.bind_some, opened, escaped]
          rfl
      | false =>
          simp only [Item.source, special, Bool.false_eq_true, if_false, List.foldlM_cons,
            List.foldlM_nil, Option.bind_eq_bind, Option.bind_some, step_of_not_isSpecial special]
          rfl
  | either c d =>
      obtain ⟨plain, plain'⟩ := readable
      have opened : (Reader.between e).step '[' = some (.inSet e []) := rfl
      have closed : (Reader.inSet e [c, d]).step ']' =
          some (.between (e ++ [⟨.oneOf [c, d], false⟩])) := rfl
      simp only [Item.source, List.foldlM_cons, List.foldlM_nil, Option.bind_eq_bind,
        Option.bind_some, opened, step_of_member plain, step_of_member plain',
        List.nil_append, List.singleton_append, closed]
      rfl
  | any => rfl
  | run =>
      have dot : (Reader.between e).step '.' = some (.between (e ++ [⟨.dot, false⟩])) := rfl
      have star (e : Expression) :
          (Reader.between e).step '*' = (Expression.star? e).map .between := rfl
      simp only [Item.source, List.foldlM_cons, List.foldlM_nil, Option.bind_eq_bind,
        Option.bind_some, dot, star, star?_concat, Option.map_some]
      rfl

theorem foldlM_flatMap_source (readable : ∀ item ∈ p, item.Readable) (e : Expression) :
    (p.flatMap Item.source).foldlM Reader.step (.between e) =
      some (.between (e ++ p.map Item.piece)) := by
  induction p generalizing e with
  | nil => rw [List.map_nil, List.append_nil]; rfl
  | cons item p inductionHypothesis =>
      obtain ⟨first, others⟩ := List.forall_mem_cons.mp readable
      rw [List.flatMap_cons, List.foldlM_append, foldlM_source first, Option.bind_eq_bind,
        Option.bind_some, inductionHypothesis others, List.map_cons, List.append_assoc]
      rfl

theorem read_source (readable : ∀ item ∈ p, item.Readable) :
    Expression.read p.source.toList = some (p.map Item.piece) := by
  rw [Expression.read, source, String.toList_ofList, foldlM_flatMap_source readable]
  rfl

-- The plus sign loses its meaning; the letter is read in both cases.
example : Expression.read (ofLike true "%+x_").source.toList =
    some [⟨.dot, true⟩, ⟨.char '+', false⟩, ⟨.oneOf ['x', 'X'], false⟩, ⟨.dot, false⟩] := by
  rfl

section Readable

variable {ignoreCase : Bool} {text : String}

theorem isSign_of_mem_setOperators (operator : c ∈ Expression.setOperators) : Text.IsSign c := by
  have each : Expression.setOperators.all fun c => decide (Text.IsSign c) := by decide
  exact of_decide_eq_true (List.all_eq_true.mp each c operator)

/-- A letter is written as a set only if both of its cases can stand in one. -/
theorem readable_bothCases (letter : Text.isAlphabetic c = true) : (bothCases c).Readable := by
  have noOperator : c ∉ Expression.setOperators := by
    intro operator
    have each : Expression.setOperators.all fun c => !Text.isAlphabetic c := by decide
    have other := List.all_eq_true.mp each c operator
    rw [letter] at other
    cases other
  unfold bothCases
  split
  · next l u small capital =>
      split
      · trivial
      · constructor
        · intro operator
          have sign := isSign_of_mem_setOperators operator
          have same := sign.eq_of_mem_lower (small ▸ List.mem_singleton_self l)
          exact noOperator (same ▸ operator)
        · intro operator
          have sign := isSign_of_mem_setOperators operator
          have same := sign.eq_of_mem_upper (capital ▸ List.mem_singleton_self u)
          exact noOperator (same ▸ operator)
  · trivial

theorem readable_likeItem (ignoreCase : Bool) (c : Char) :
    (likeItem ignoreCase c).Readable := by
  unfold likeItem
  split
  · trivial
  · split
    · trivial
    · split
      · next cased => exact readable_bothCases (Bool.and_eq_true_iff.mp cased).2
      · trivial

theorem readable_ofLike : ∀ item ∈ ofLike ignoreCase text, item.Readable := by
  intro item member
  obtain ⟨c, -, rfl⟩ := List.mem_map.mp member
  exact readable_likeItem ignoreCase c

end Readable

theorem exists_flatten_cons_iff {α β : Type} {R : α → List β → Prop} {sign : α} {signs : List α}
    {s : List β} :
    (∃ texts, s = texts.flatten ∧ List.Forall₂ R (sign :: signs) texts) ↔
      ∃ text rest, s = text ++ rest ∧ R sign text ∧
        ∃ texts, rest = texts.flatten ∧ List.Forall₂ R signs texts := by
  constructor
  · rintro ⟨texts, rfl, each⟩
    cases each with
    | cons first others => exact ⟨_, _, List.flatten_cons, first, _, rfl, others⟩
  · rintro ⟨text, rest, rfl, first, texts, rfl, others⟩
    exact ⟨text :: texts, List.flatten_cons.symm, .cons first others⟩

theorem stands_cons_iff {piece : Piece} {e : Expression} :
    Expression.Stands (piece :: e) s ↔
      ∃ text rest, s = text ++ rest ∧ piece.Stands text ∧ Expression.Stands e rest :=
  exists_flatten_cons_iff

theorem Item.admits_iff : item.admits c = true ↔ item.piece.atom.Admits c := by
  cases item with
  | char d => simp [admits, piece, Expression.Atom.Admits]
  | either d d' => simp [admits, piece, Expression.Atom.Admits]
  | any => simp [admits, piece, Expression.Atom.Admits]
  | run => simp [admits, piece, Expression.Atom.Admits]

theorem matches_run_iff :
    Matches (.run :: p) s ↔
      ∃ text rest, s = text ++ rest ∧ (∀ c ∈ text, Item.run.admits c = true) ∧ Matches p rest := by
  induction s with
  | nil =>
      rw [matches_run_nil_iff]
      constructor
      · intro stands
        exact ⟨[], [], rfl, List.forall_mem_nil _, stands⟩
      · rintro ⟨text, rest, split, -, stands⟩
        obtain ⟨rfl, rfl⟩ := List.append_eq_nil_iff.mp split.symm
        exact stands
  | cons c s inductionHypothesis =>
      rw [matches_run_cons_iff, inductionHypothesis]
      constructor
      · rintro (stands | ⟨admitted, text, rest, rfl, each, stands⟩)
        · exact ⟨[], c :: s, rfl, List.forall_mem_nil _, stands⟩
        · exact ⟨c :: text, rest, rfl, List.forall_mem_cons.mpr ⟨admitted, each⟩, stands⟩
      · rintro ⟨text, rest, split, each, stands⟩
        cases text with
        | nil =>
            rw [List.nil_append] at split
            rw [split]
            exact .inl stands
        | cons d text =>
            injection split with first later
            subst first
            obtain ⟨admitted, others⟩ := List.forall_mem_cons.mp each
            exact .inr ⟨admitted, text, rest, later, others, stands⟩

theorem matches_single_iff (single : item ≠ .run) :
    Matches (item :: p) s ↔
      ∃ text rest, s = text ++ rest ∧ (∃ c, text = [c] ∧ item.admits c = true) ∧
        Matches p rest := by
  constructor
  · intro stands
    cases s with
    | nil => exact absurd stands (not_matches_single_nil single)
    | cons c s =>
        obtain ⟨admitted, later⟩ := (matches_single_cons_iff single).mp stands
        exact ⟨[c], s, rfl, ⟨c, rfl, admitted⟩, later⟩
  · rintro ⟨_, rest, rfl, ⟨c, rfl, admitted⟩, later⟩
    exact (matches_single_cons_iff single).mpr ⟨admitted, later⟩

theorem Item.stands_piece_iff (single : item ≠ .run) :
    item.piece.Stands s ↔ ∃ c, s = [c] ∧ item.admits c = true := by
  simp only [admits_iff]
  cases item with
  | run => exact absurd rfl single
  | _ => exact Iff.rfl

/-- A pattern stands for a value exactly if the expression does that its text is read as. -/
theorem matches_iff_stands : Matches p s ↔ Expression.Stands (p.map Item.piece) s := by
  induction p generalizing s with
  | nil =>
      constructor
      · intro stands
        cases stands
        exact ⟨[], rfl, .nil⟩
      · rintro ⟨texts, rfl, each⟩
        cases each
        exact .nil
  | cons item p inductionHypothesis =>
      rw [List.map_cons, stands_cons_iff]
      by_cases repeated : item = .run
      · subst repeated
        simp only [matches_run_iff, inductionHypothesis, Item.admits_iff]
        rfl
      · simp only [matches_single_iff repeated, inductionHypothesis,
          Item.stands_piece_iff repeated]

end Pattern

end RecordSearch
