import RecordSearch.Config.Document
import RecordSearch.Data.Yaml.Document
import RecordSearch.Files.Basic
import RecordSearch.Record.Document

/-!
Configurations and declarations of attributes from files.

A configuration that is read from a file speaks of other files as seen from its own folder.
-/

namespace RecordSearch

open RecordSearch.Text

inductive SchemaFault where
  | absent (path : String)
  | unreadable (path : String) (fault : IoFault)
  | malformed (path : String)
  | rejected (path : String) (fault : RegistryFault)
  deriving DecidableEq, Repr

def SchemaFault.message : SchemaFault → String
  | absent path => "Schema file not found: " ++ path
  | unreadable path fault => "Failed to read schema file " ++ path ++ ": " ++ fault.text
  | malformed path => "Invalid YAML schema in " ++ path
  | rejected path fault => "Invalid schema registry in " ++ path ++ ": " ++ fault.message

namespace Registry

def declarationsOf? (yaml : String) : Option (List Declaration) :=
  (Yaml.read yaml).bind (Declaration.listOfTree? false)

def load (fs : Files) (path : String) : Except SchemaFault Registry :=
  if fs.contains (Utf8.bytes path) then
    match fs.readText (Utf8.bytes path) with
    | .error fault => .error (.unreadable path fault)
    | .ok yaml =>
      match declarationsOf? yaml with
      | none => .error (.malformed path)
      | some ds =>
        match ofDeclarations ds with
        | .error fault => .error (.rejected path fault)
        | .ok r => .ok r
  else .error (.absent path)

end Registry

inductive ConfigFault where
  | malformed
  | unreadable (path : String) (fault : IoFault)
  /-- A file that can be read. -/
  | malformedFile (path : String)
  deriving DecidableEq, Repr

def ConfigFault.message : ConfigFault → String
  | malformed => "Invalid service configuration: "
  | unreadable path fault => "Failed to read configuration " ++ path ++ ": " ++ fault.text
  | malformedFile path => path ++ ": Invalid service configuration: "

/-- A path without slashes and steps to the same folder at its end; all is last character first. -/
def trimPath : List Char → List Char
  | '/' :: c :: rest => trimPath (c :: rest)
  | '.' :: '/' :: rest => trimPath ('/' :: rest)
  | s => s

def folderOf (path : String) : String :=
  String.ofList (trimPath (path.toList.reverse.dropWhile (· != '/'))).reverse

def pathFrom (folder path : String) : String :=
  if path.toList.head? = some '/' || folder.isEmpty then path
  else if folder.toList.getLast? = some '/' then folder ++ path
  else folder ++ "/" ++ path

namespace Config

def ofText (yaml : String) : Except ConfigFault Config :=
  match (Yaml.read yaml).bind (ofTree? false) with
  | some c => .ok c
  | none => .error .malformed

def within (folder : String) (c : Config) : Config :=
  { c with
    schemaPath := c.schemaPath.map (pathFrom folder)
    index := { c.index with path := c.index.path.map (pathFrom folder) } }

def load (fs : Files) (path : String) : Except ConfigFault Config :=
  match fs.readText (Utf8.bytes path) with
  | .error fault => .error (.unreadable path fault)
  | .ok yaml =>
    match ofText yaml with
    | .ok c => .ok (c.within (folderOf path))
    | .error _ => .error (.malformedFile path)

end Config

end RecordSearch
