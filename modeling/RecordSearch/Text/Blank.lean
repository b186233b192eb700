import RecordSearch.Text.Letter
import RecordSearch.Text.Property.Blank

/-!
White space at the ends of a text.
-/

namespace RecordSearch.Text

def isBlank (c : Char) : Bool :=
  if c.toNat < 0x80 then c == ' ' || ('\t' ≤ c && c ≤ '\r')
  else inRanges Property.blank c

/-- A list without its longest tail of elements that satisfy `p`. -/
def dropTail (p : Char → Bool) (s : List Char) : List Char :=
  ((s.reverse).dropWhile p).reverse

def trimBy (p : Char → Bool) (s : List Char) : List Char :=
  dropTail p (s.dropWhile p)

def trim (s : String) : String := String.ofList (trimBy isBlank s.toList)

def allBlank (s : String) : Bool := s.toList.all isBlank

end RecordSearch.Text
