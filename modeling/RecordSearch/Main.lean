import RecordSearch.Cli.Run
import RecordSearch.Data.Json.Printer
import RecordSearch.Files.MediaType
import RecordSearch.Store.Document
import Std.Time.DateTime.Timestamp

/-!
The program: it reads the files that a command needs, runs the command, writes the index that the
command leaves and prints the outcome.
-/

namespace RecordSearch.Main

open RecordSearch.Text
open RecordSearch.Time (Instant)

def indexFile (folder : String) : String := folder ++ "/records.json"

def clock : IO Instant := do
  let now ← Std.Time.Timestamp.now
  return Instant.ofSeconds now.val.second.val

/-- What an open file holds; a folder can be opened too, but not read. -/
def nodeOf (handle : IO.FS.Handle) : IO Node := do
  try
    let bytes ← handle.readBinToEnd
    return .file bytes.toList
  catch _ => return .folder

def nodeAt (path : String) : IO (Option Node) := do
  try
    let handle ← IO.FS.Handle.mk path .read
    some <$> nodeOf handle
  catch _ => return none

def withPath (fs : Files) (path : String) : IO Files := do
  let way := fs.wayOf (Utf8.bytes path)
  match ← nodeAt path with
  | some (.file bytes) => return { fs with files := (way, bytes) :: fs.files }
  | some .folder => return { fs with folders := way :: fs.folders }
  | none => return fs

def pathsOf (urls : List Url) : List String :=
  urls.filterMap fun u =>
    u.filePath?.bind fun bytes => (Utf8.decode bytes).toOption.map String.ofList

def commandPaths : Cli.Command → List String
  | .index _ request => pathsOf [request.source, request.metadata]
  | .envelope _ file _ => [file]
  | _ => []

def readIndex (folder : String) : IO (Option Index) := do
  try
    let text ← IO.FS.readFile (indexFile folder)
    return (Json.readSound (Utf8.bytes text)).bind Index.ofTree?
  catch _ => return none

def writeIndex (folder : String) (index : Index) : IO Unit := do
  IO.FS.createDirAll folder
  IO.FS.writeFile (indexFile folder) (String.ofList (Json.write index.toTree))

def diskOf (i : Cli.Invocation) : IO Disk := do
  let here := toString (← IO.currentDir)
  let fs : Files := { here := ({} : Files).wayOf (Utf8.bytes here) }
  let fs ← i.configPath.toList.foldlM withPath fs
  match i.config fs with
  | .error _ => return { files := fs }
  | .ok config =>
    let folders := config.index.path.toList
    let fs ← (config.schemaPath.toList ++ folders ++ commandPaths i.command).foldlM withPath fs
    let indexes ← folders.filterMapM fun folder => do
      return (← readIndex folder).map fun index => (fs.wayOf (Utf8.bytes folder), index)
    return { files := fs, indexes := indexes }

def writeBack (i : Cli.Invocation) (disk : Disk) : IO Unit := do
  match i.config disk.files with
  | .error _ => return
  | .ok config =>
    for folder in config.index.path.toList do
      match disk.index? (disk.files.wayOf (Utf8.bytes folder)) with
      | some index => writeIndex folder index
      | none => return

def print (outcome : Cli.Outcome) : IO UInt32 := do
  IO.print outcome.output
  IO.eprint outcome.errors
  return UInt32.ofNat outcome.code

end RecordSearch.Main

def main (args : List String) : IO UInt32 := do
  match RecordSearch.Cli.Reading.ofArgs args with
  | .run invocation =>
    let disk ← RecordSearch.Main.diskOf invocation
    let now ← RecordSearch.Main.clock
    let (outcome, disk) := invocation.run RecordSearch.MediaType.ofPath? now disk
    RecordSearch.Main.writeBack invocation disk
    RecordSearch.Main.print outcome
  | _ =>
    let now ← RecordSearch.Main.clock
    let disk : RecordSearch.Disk := ⟨⟨[], [], []⟩, []⟩
    RecordSearch.Main.print (RecordSearch.Cli.run RecordSearch.MediaType.ofPath? now args disk).1
