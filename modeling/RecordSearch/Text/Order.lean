import RecordSearch.Text.Utf8

/-!
Sets of texts as strictly ascending lists.
-/

namespace RecordSearch.Text

def insertText (s : String) : List String → List String
  | [] => [s]
  | t :: rest =>
    if Utf8.lt s t then s :: t :: rest
    else if s = t then t :: rest
    else t :: insertText s rest

/-- The set of the texts of a list, ascending. -/
def textSet (texts : List String) : List String := texts.foldr insertText []

end RecordSearch.Text
