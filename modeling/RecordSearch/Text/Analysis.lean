import RecordSearch.Text.Letter

/-!
The words of a text, as an index finds them.

A word is a maximal run of letters and digits, in lower case.  Words of forty bytes or more are
left out, but they count when the words after them get their positions.
-/

namespace RecordSearch.Text

/-- A word that is kept: its place among all words, and what stands between it and the kept word
before it. -/
structure Token where
  word : String
  position : Nat
  gap : List Char
  deriving DecidableEq, Repr

structure Analysis where
  tokens : List Token
  tail : List Char
  deriving DecidableEq, Repr

/-- A text cut into runs that are words and runs that are none. -/
def runs (s : List Char) : List (List Char) :=
  s.splitBy fun a b => isAlphanumeric a == isAlphanumeric b

/-- Words of this many bytes are left out. -/
def longWord : Nat := 40

namespace Analysis

/-- An analysis that is under way: words met so far, kept ones last first, and the text since the
last one kept. -/
structure Progress where
  met : Nat
  kept : List Token
  gap : List Char

def Progress.step (p : Progress) (run : List Char) : Progress :=
  if (run.head?.map isAlphanumeric).getD false then
    if (String.ofList run).utf8ByteSize < longWord then
      ⟨p.met + 1, ⟨String.ofList (run.flatMap lower), p.met, p.gap⟩ :: p.kept, []⟩
    else ⟨p.met + 1, p.kept, p.gap ++ run⟩
  else ⟨p.met, p.kept, p.gap ++ run⟩

def of (s : List Char) : Analysis :=
  let p := (runs s).foldl Progress.step ⟨0, [], []⟩
  ⟨p.kept.reverse, p.gap⟩

end Analysis

end RecordSearch.Text
