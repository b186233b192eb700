import RecordSearch.Files.Folder
import RecordSearch.Store.Basic

/-!
Indexes that are kept in folders, and opening them.
-/

namespace RecordSearch

namespace Index

/-- The memory that the writer of an index may use, in bytes, lies between these bounds; only the
lower one belongs to the range. -/
def leastHeap : Nat := 15000000

def heapLimit : Nat := 4293967294

def heapFault? (heapBytes : Nat) : Option StoreFault :=
  if heapBytes < leastHeap then
    some (.engine ("An invalid argument was passed: 'The memory arena in bytes per thread needs " ++
      "to be at least " ++ toString leastHeap ++ ".'"))
  else if heapLimit ≤ heapBytes then
    some (.engine ("An invalid argument was passed: 'The memory arena in bytes per thread cannot " ++
      "exceed " ++ toString heapLimit ++ "'"))
  else none

end Index

namespace Store

/-- Opens the index of a folder, where `found` is the index there and `locked` tells whether
another handle may write to it. An index is opened only with the layout it was made with. -/
def openDisk (registry : Registry) (heapBytes : Nat) (found : Option Index) (locked : Bool) :
    Except StoreFault Store :=
  let index := found.getD (.empty registry)
  if index.layout = registry.layout then
    if locked then .ok ⟨index, ⟨registry, false, index.records⟩⟩
    else
      match Index.heapFault? heapBytes with
      | some fault => .error fault
      | none => .ok ⟨index, ⟨registry, true, index.records⟩⟩
  else
    .error (.engine "Schema error: 'An index exists but the schema does not match.'")

end Store

structure Disk where
  files : Files
  indexes : List (Names × Index) := []

namespace Disk

def index? (d : Disk) (place : Names) : Option Index := d.indexes.lookup place

def keep (d : Disk) (place : Names) (index : Index) : Disk :=
  { d with indexes := (place, index) :: d.indexes.filter fun e => e.1 != place }

/-- Opens the index in a folder, which is made if need be; a folder without an index gets an empty
one. -/
def openIndex (d : Disk) (registry : Registry) (heapBytes : Nat) (path : String) :
    Except StoreFault (Names × Store) × Disk :=
  match d.files.makeFolder (Text.Utf8.bytes path) with
  | .error fault => (.error (.io fault.text), d)
  | .ok (place, files) =>
    let index := (d.index? place).getD (.empty registry)
    let d := { d with files := files }.keep place index
    match Store.openDisk registry heapBytes (some index) false with
    | .error fault => (.error fault, d)
    | .ok store => (.ok (place, store), d)

end Disk

end RecordSearch
