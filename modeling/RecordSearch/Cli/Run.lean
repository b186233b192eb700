import RecordSearch.Cli.Help
import RecordSearch.Service.Startup

/-!
Running commands: what is printed, and what becomes of the indexes.
-/

namespace RecordSearch.Cli

open RecordSearch.Text
open RecordSearch.Time (Instant)

structure Outcome where
  code : Nat := 0
  output : String := ""
  errors : String := ""
  deriving DecidableEq, Repr

structure Report where
  message : String
  causes : List String := []
  deriving DecidableEq, Repr

namespace Report

def numbered (n : Nat) : List String → String
  | [] => ""
  | cause :: rest =>
    Help.rightAligned 5 (toString n) ++ ": " ++ cause ++ "\n" ++ numbered (n + 1) rest

def text (r : Report) : String :=
  "Error: " ++ r.message ++ "\n" ++
    match r.causes with
    | [] => ""
    | [cause] => "\nCaused by:\n    " ++ cause ++ "\n"
    | causes => "\nCaused by:\n" ++ numbered 0 causes

def ofFailure (f : Failure) : Report := ⟨f.message, f.causes⟩

def ofStore (f : StoreFault) : Report := ⟨f.message, f.causes⟩

def ofStart (f : StartFault) : Report := ⟨f.message, f.causes⟩

def ofConfig (f : ConfigFault) : Report := ⟨f.message, []⟩

/-- Without a folder for the index there is nothing to work on. -/
def noIndex : Report :=
  ⟨"An index path is required; pass --index-path or set index.path in the configuration", []⟩

end Report

namespace Outcome

def misuse : Outcome := { code := 2 }

def printed (s : String) : Outcome := { output := s }

def failed (r : Report) : Outcome := { code := 1, errors := r.text }

def ofResult : Except Report String → Outcome
  | .ok s => printed s
  | .error r => failed r

end Outcome

namespace Invocation

/-- The configuration of an invocation; a folder for the index that is named in the arguments
counts before all others. -/
def config (i : Invocation) (files : Files) : Except Report Config :=
  let loaded : Except ConfigFault Config :=
    match i.configPath with
    | some path => Config.load files path
    | none => .ok {}
  match loaded with
  | .error fault => .error (.ofConfig fault)
  | .ok c =>
    let path := i.indexPath.or c.index.path
    if path.isSome then .ok { c with index := { c.index with path := path } }
    else .error .noIndex

end Invocation

namespace Command

def indexed (id : String) (result : Except Failure Unit × Services) :
    Except Report String × Services :=
  match result with
  | (.ok (), s) => (.ok ("Indexed " ++ id ++ "\n"), s)
  | (.error failure, s) => (.error (.ofFailure failure), s)

def stored {α : Type} (print : α → String) (result : Except StoreFault α × Services) :
    Except Report String × Services :=
  match result with
  | (.ok a, s) => (.ok (print a), s)
  | (.error fault, s) => (.error (.ofStore fault), s)

def printedLocators (locators : List String) : String :=
  String.join (locators.map (· ++ "\n")) ++ toString locators.length ++ " result(s)\n"

def printedDeletion (id : String) (found : Bool) : String :=
  if found then "Deleted " ++ id ++ "\n" else "No document with identity " ++ id ++ "\n"

def run (files : Files) (guess : MediaType.Guess) (now : Instant) (s : Services) :
    Command → Except Report String × Services
  | index id request => indexed id (s.index (.ofFiles files) guess now id request)
  | envelope id file mediaType =>
    match files.openPath (Utf8.bytes file) with
    | .error fault => (.error ⟨"Failed to open " ++ file, fault.text :: fault.causes⟩, s)
    | .ok content => indexed id (s.indexEnvelope id mediaType content)
  | search query =>
    match s.find query with
    | (.ok locators, s) => (.ok (printedLocators locators), s)
    | (.error failure, s) => (.error (.ofFailure failure), s)
  | delete id => stored (printedDeletion id) (s.act (Store.delete id))
  | purge => stored (fun _ => "Deleted all documents\n") (s.act Store.purge)
  | count => stored (fun n => toString n ++ "\n") (s.act Store.count)

end Command

namespace Invocation

/-- Starts the services, runs the command and puts the index back. -/
def run (i : Invocation) (guess : MediaType.Guess) (now : Instant) (disk : Disk) :
    Outcome × Disk :=
  match i.config disk.files with
  | .error report => (.failed report, disk)
  | .ok config =>
    match Services.start config disk with
    | (.error fault, disk) => (.failed (.ofStart fault), disk)
    | (.ok s, disk) =>
      let (result, s) := i.command.run disk.files guess now s
      (.ofResult result, s.stop disk)

end Invocation

def run (guess : MediaType.Guess) (now : Instant) (args : List String) (disk : Disk) :
    Outcome × Disk :=
  match Reading.ofArgs args with
  | .misuse => (.misuse, disk)
  | .version => (.printed Help.version, disk)
  | .help none => (.printed Help.ofProgram, disk)
  | .help (some form) => (.printed (Help.ofCommand form), disk)
  | .run invocation => invocation.run guess now disk

end RecordSearch.Cli
