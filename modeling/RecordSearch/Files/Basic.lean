import RecordSearch.Text.Utf8

/-!
Files and folders, and the ways of opening and reading them that fail.

`Files.open` walks from folder to folder along the names of a path.  A name may be empty or a dot,
which stay in a folder, or two dots, which leave it; all three need a folder to stand in.
-/

namespace RecordSearch

open RecordSearch.Text

/-- A failure of the world outside, with the messages of the failures behind it. -/
structure IoFault where
  text : String
  causes : List String := []
  deriving DecidableEq, Repr

/-- The bytes of an opened document, or why they cannot be read. -/
abbrev Content := Except IoFault (List UInt8)

namespace IoFault

def absent : IoFault := ⟨"No such file or directory (os error 2)", []⟩

def notFolder : IoFault := ⟨"Not a directory (os error 20)", []⟩

def isFolder : IoFault := ⟨"Is a directory (os error 21)", []⟩

def taken : IoFault := ⟨"File exists (os error 17)", []⟩

def longName : IoFault := ⟨"File name too long (os error 36)", []⟩

def nul : IoFault := ⟨"file name contained an unexpected NUL byte", []⟩

def notText : IoFault := ⟨"stream did not contain valid UTF-8", []⟩

end IoFault

def Content.text : Content → Except IoFault String
  | .error fault => .error fault
  | .ok bytes =>
    match Utf8.decode bytes with
    | .ok s => .ok (String.ofList s)
    | .error _ => .error .notText

/-- The names on the way from the root to a file or folder. -/
abbrev Names := List (List UInt8)

/-- Files with their contents, and folders; the folders on the way to either are there too. -/
structure Files where
  files : List (Names × List UInt8) := []
  folders : List Names := []
  /-- Where paths begin that do not begin at the root. -/
  here : Names := []
  deriving DecidableEq, Repr

inductive Node where
  | folder
  | file (bytes : List UInt8)
  deriving DecidableEq, Repr

namespace Files

def slash : UInt8 := 0x2F

def pieces (path : List UInt8) : Names :=
  path.foldr (fun b done =>
    match done with
    | [] => [[]]
    | piece :: rest => if b == slash then [] :: piece :: rest else (b :: piece) :: rest) [[]]

def node? (fs : Files) (way : Names) : Option Node :=
  match fs.files.lookup way with
  | some bytes => some (.file bytes)
  | none =>
    if way.isEmpty || fs.folders.any way.isPrefixOf || fs.files.any (way.isPrefixOf ·.1) then
      some .folder
    else none

/-- Where a path leads if every name in it is a folder or a file. -/
def wayOf (fs : Files) (path : List UInt8) : Names :=
  let start := if path.head? == some slash then [] else fs.here
  ((pieces path).foldl (fun (back : Names) name =>
    if name = [] || name = [0x2E] then back
    else if name = [0x2E, 0x2E] then back.tail
    else name :: back) start.reverse).reverse

/-- The greatest length of a name, and that of a path with an end mark. -/
def nameLimit : Nat := 255

def pathLimit : Nat := 4096

/-- Walks on from a folder or file along names; the way back to the root is `back`. -/
def walk (fs : Files) (back : Names) : Names → Except IoFault (Names × Node)
  | [] =>
    match fs.node? back.reverse with
    | some node => .ok (back.reverse, node)
    | none => .error .absent
  | name :: rest =>
    match fs.node? back.reverse with
    | none => .error .absent
    | some (.file _) => .error .notFolder
    | some .folder =>
      if name = [] || name = [0x2E] then walk fs back rest
      else if name = [0x2E, 0x2E] then walk fs back.tail rest
      else if nameLimit < name.length then .error .longName
      else walk fs (name :: back) rest

def find (fs : Files) (path : List UInt8) : Except IoFault (Names × Node) :=
  if path.contains 0 then .error .nul
  else if path.isEmpty then .error .absent
  else if pathLimit ≤ path.length then .error .longName
  else if path.head? == some slash then fs.walk [] (pieces path)
  else fs.walk fs.here.reverse (pieces path)

/-- Opens a file, or a folder, which cannot be read then. -/
def openPath (fs : Files) (path : List UInt8) : Except IoFault Content :=
  match fs.find path with
  | .error fault => .error fault
  | .ok (_, .folder) => .ok (.error .isFolder)
  | .ok (_, .file bytes) => .ok (.ok bytes)

def readText (fs : Files) (path : List UInt8) : Except IoFault String :=
  match fs.openPath path with
  | .error fault => .error fault
  | .ok content => content.text

def contains (fs : Files) (path : List UInt8) : Bool :=
  match fs.find path with
  | .ok _ => true
  | .error _ => false

end Files

end RecordSearch
