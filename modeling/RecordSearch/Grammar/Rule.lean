import RecordSearch.Text.Scan

/-!
Rules of a grammar with ordered choice.

A rule reads the head of a text.  Beside its result it keeps the furthest place where a named rule
was tried in vain, which is where a query that fits no rule is said to be at fault.  What a rule
accepts is `Rule.read`, and each combinator has a lemma that says how it reads.
-/

namespace RecordSearch.Grammar

open RecordSearch.Text

/-- What a rule makes of a text: its value with the rest of the text, and the least number of
characters that were left where a named rule failed. -/
structure Reply (α : Type) where
  result : Option (α × List Char)
  stuck : Option Nat

def Rule (α : Type) := List Char → Reply α

def further : Option Nat → Option Nat → Option Nat
  | some a, some b => some (min a b)
  | some a, none => some a
  | none, b => b

namespace Rule

variable {α β : Type}

/-- What a rule accepts, whatever it tried in vain. -/
def read (rule : Rule α) (s : List Char) : Option (α × List Char) := (rule s).result

protected def pure (a : α) : Rule α := fun s => ⟨some (a, s), none⟩

protected def bind (rule : Rule α) (f : α → Rule β) : Rule β := fun s =>
  match rule s with
  | ⟨none, stuck⟩ => ⟨none, stuck⟩
  | ⟨some (a, rest), stuck⟩ =>
    let reply := f a rest
    ⟨reply.result, further stuck reply.stuck⟩

protected def orElse (rule : Rule α) (other : Unit → Rule α) : Rule α := fun s =>
  match rule s with
  | ⟨some r, stuck⟩ => ⟨some r, stuck⟩
  | ⟨none, stuck⟩ =>
    let reply := other () s
    ⟨reply.result, further stuck reply.stuck⟩

protected def fail : Rule α := fun _ => ⟨none, none⟩

instance : Monad Rule where
  pure := Rule.pure
  bind := Rule.bind

instance : OrElse (Rule α) := ⟨Rule.orElse⟩

/-- Reads by a scan and leaves no trace of a failure. -/
def ofScan (scan : Scan α) : Rule α := fun s => ⟨scan s, none⟩

/-- A rule with a name: its failure is remembered at the place where it was tried. -/
def named (rule : Rule α) : Rule α := fun s =>
  match rule s with
  | ⟨some r, stuck⟩ => ⟨some r, stuck⟩
  | ⟨none, stuck⟩ => ⟨none, further stuck (some s.length)⟩

def token (scan : Scan α) : Rule α := named (ofScan scan)

def firstOf : List (Rule α) → Rule α
  | [] => Rule.fail
  | rule :: rules => rule.orElse fun _ => firstOf rules

/-- Whether a rule succeeds; if it fails, nothing is read. -/
def present (rule : Rule α) : Rule Bool :=
  (rule.bind fun _ => Rule.pure true).orElse fun _ => Rule.pure false

def upTo (rule : Rule α) : Nat → Rule (List α)
  | 0 => Rule.pure []
  | limit + 1 =>
    (rule.bind fun a => (upTo rule limit).bind fun as => Rule.pure (a :: as)).orElse
      fun _ => Rule.pure []

/-- A rule as often as it succeeds. A rule that reads something each time succeeds no more often
than there are characters. -/
def many (rule : Rule α) : Rule (List α) := fun s => upTo rule (s.length + 1) s

@[simp] theorem read_pure (a : α) (s : List Char) : (pure a : Rule α).read s = some (a, s) := rfl

@[simp] theorem read_bind (rule : Rule α) (f : α → Rule β) (s : List Char) :
    (rule >>= f).read s = (rule.read s).bind fun r => (f r.1).read r.2 := by
  show (Rule.bind rule f s).result = _
  simp only [Rule.bind, read]
  rcases rule s with ⟨_ | _, _⟩ <;> rfl

@[simp] theorem read_orElse (rule : Rule α) (other : Unit → Rule α) (s : List Char) :
    (rule.orElse other).read s = (rule.read s).or ((other ()).read s) := by
  simp only [Rule.orElse, read]
  rcases rule s with ⟨_ | _, _⟩ <;> simp

@[simp] theorem read_ofScan (scan : Scan α) (s : List Char) : (ofScan scan).read s = scan s := rfl

@[simp] theorem read_named (rule : Rule α) (s : List Char) : rule.named.read s = rule.read s := by
  simp only [named, read]
  rcases rule s with ⟨_ | _, _⟩ <;> rfl

@[simp] theorem read_token (scan : Scan α) (s : List Char) : (token scan).read s = scan s := by
  simp [token]

end Rule

end RecordSearch.Grammar
