import RecordSearch.Service.Failure

/-!
Where documents are found: behind URLs of files.

No connection to another host is ever made, so a URL of the Web is a host that refuses it.
-/

namespace RecordSearch

open RecordSearch.Text

/-- What lies behind a URL: nothing that can be opened, or an open document. -/
abbrev Loader := Url → Except IoFault Content

namespace IoFault

def notLocal (u : Url) : IoFault := ⟨u.text ++ " is not a local file path", []⟩

def refused (u : Url) : IoFault :=
  ⟨"error sending request for url (" ++ u.text ++ ")",
    ["client error (Connect)", "tcp connect error", "Connection refused (os error 111)"]⟩

def unknownScheme (u : Url) : IoFault :=
  ⟨"unsupported URL scheme '" ++ String.ofList u.scheme ++ "' in " ++ u.text, []⟩

end IoFault

namespace Loader

def ofFiles (fs : Files) : Loader := fun u =>
  if u.scheme = "file".toList then
    match u.filePath? with
    | some path => fs.openPath path
    | none => .error (.notLocal u)
  else if ["http", "https"].any (fun s => s.toList = u.scheme) then .error (.refused u)
  else .error (.unknownScheme u)

end Loader

end RecordSearch
