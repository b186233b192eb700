import RecordSearch.Text.Letter

/-!
The media types that the program takes documents to be of, by the ends of their names.

All other modules are about any guess at a media type, and so this table is handed to them by the
program only.
-/

namespace RecordSearch.MediaType

open RecordSearch.Text

def byExtension : List (String × String) :=
  [("txt", "text/plain"), ("log", "text/plain"), ("html", "text/html"), ("htm", "text/html"),
    ("json", "application/json"), ("xml", "text/xml"), ("csv", "text/csv"),
    ("md", "text/markdown"), ("css", "text/css"), ("js", "text/javascript"),
    ("yaml", "text/x-yaml"), ("rs", "text/x-rust"), ("pdf", "application/pdf"),
    ("png", "image/png"), ("jpg", "image/jpeg"), ("svg", "image/svg+xml"),
    ("zip", "application/zip"), ("gz", "application/gzip"), ("doc", "application/msword")]

/-- The name of the file at the end of a path; a slash at its end does not count. -/
def fileName (path : List Char) : List Char :=
  ((path.reverse.dropWhile (· == '/')).takeWhile (· != '/')).reverse

/-- The end of a file name behind its last full stop, unless the stop comes first. -/
def extension? (name : List Char) : Option (List Char) :=
  if name = ['.', '.'] then none
  else
    match name.reverse.dropWhile (· != '.') with
    | _ :: _ :: _ => some (name.reverse.takeWhile (· != '.')).reverse
    | _ => none

def ofPath? (path : List Char) : Option String := do
  let ending ← extension? (fileName path)
  byExtension.lookup (asciiLowerText (String.ofList ending))

end RecordSearch.MediaType
