import RecordSearch.Cli.Form
import RecordSearch.Service.Indexing

/-!
The commands of the command line.
-/

namespace RecordSearch.Cli

inductive Command where
  | index (id : String) (request : IndexRequest)
  | envelope (id file mediaType : String)
  | search (query : String)
  | delete (id : String)
  | purge
  | count
  deriving DecidableEq, Repr

structure Invocation where
  configPath : Option String
  indexPath : Option String
  command : Command
  deriving DecidableEq, Repr

inductive Reading where
  | run (invocation : Invocation)
  /-- Help, on one command or on all. -/
  | help (command : Option CommandForm)
  | version
  | misuse

def programName : String := "cql-search"

def programVersion : String := "0.1.0"

def programMeaning : String := "Index documents and run CommonQL queries against a local index"

def headOptions : List OptionForm :=
  [{ long := "config", short := some 'c', valueName := "CONFIG", kind := .path,
     meaning := "Service configuration file (YAML)" },
    { long := "index-path", short := some 'i', valueName := "INDEX_PATH", kind := .path,
      meaning := "Index directory, overriding the configuration" }]

namespace Command

def mediaType (default : Option String) : OptionForm :=
  { long := "media-type", valueName := "MEDIA_TYPE", kind := .text, default := default }

def indexForm : CommandForm :=
  { name := "index", meaning := "Extract a document from its source location and index it",
    options := [mediaType none],
    operands :=
      [{ name := "ID" }, { name := "SOURCE", kind := .url }, { name := "METADATA", kind := .url }] }

def envelopeForm : CommandForm :=
  { name := "envelope", meaning := "Index a JSON envelope carrying pre-extracted text",
    options := [mediaType (some Indexing.envelopeType)],
    operands := [{ name := "ID" }, { name := "FILE", kind := .path }] }

def searchForm : CommandForm :=
  { name := "search", meaning := "Print the locators matching a CommonQL filter",
    operands := [{ name := "QUERY" }] }

def deleteForm : CommandForm :=
  { name := "delete", meaning := "Remove one document", operands := [{ name := "ID" }] }

def purgeForm : CommandForm := { name := "purge", meaning := "Remove every document" }

def countForm : CommandForm :=
  { name := "count", meaning := "Print the number of indexed documents" }

def forms : List CommandForm :=
  [indexForm, envelopeForm, searchForm, deleteForm, purgeForm, countForm]

def helpForm : CommandForm :=
  { name := "help", meaning := "Print this message or the help of the given subcommand(s)",
    operands := [{ name := "COMMAND" }] }

def ofArguments? (form : CommandForm) (a : Arguments) : Option Command :=
  match form.name, a.operands with
  | "index", [id, source, metadata] =>
    match Url.parse source, Url.parse metadata with
    | .ok source, .ok metadata =>
      some (index id ⟨source, metadata, a.option? "media-type"⟩)
    | _, _ => none
  | "envelope", [id, file] =>
    some (envelope id file ((a.option? "media-type").getD Indexing.envelopeType))
  | "search", [query] => some (search query)
  | "delete", [id] => some (delete id)
  | "purge", [] => some purge
  | "count", [] => some count
  | _, _ => none

end Command

namespace Reading

def ofHelp : List String → Reading
  | [] => help none
  | [name] =>
    if name = Command.helpForm.name then help (some Command.helpForm)
    else
      match Command.forms.find? fun form => form.name = name with
      | some form => help (some form)
      | none => misuse
  | _ => misuse

def ofStop (command : Option CommandForm) : Stop → Reading
  | .help => help command
  | .version => version
  | .misuse => misuse

def ofArgs (args : List String) : Reading :=
  match Arguments.readHead headOptions (args.length + 1) {} args with
  | .error stop => ofStop none stop
  | .ok (head, name, rest) =>
    if name = Command.helpForm.name then ofHelp rest
    else
      match Command.forms.find? fun form => form.name = name with
      | none => misuse
      | some form =>
        match Arguments.read form rest with
        | .error stop => ofStop (some form) stop
        | .ok a =>
          match Command.ofArguments? form a with
          | none => misuse
          | some command => run ⟨head.option? "config", head.option? "index-path", command⟩

end Reading

end RecordSearch.Cli
