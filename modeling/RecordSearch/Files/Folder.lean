import RecordSearch.Files.Basic

/-!
Making folders.
-/

namespace RecordSearch.Files

def makeWay (fs : Files) (back : Names) : Names → Except IoFault (Names × Files)
  | [] =>
    match fs.node? back.reverse with
    | some (.file _) => .error .taken
    | some .folder => .ok (back.reverse, fs)
    | none => .ok (back.reverse, { fs with folders := back.reverse :: fs.folders })
  | name :: rest =>
    match fs.node? back.reverse with
    | some (.file _) => .error .notFolder
    | _ =>
      if name = [] || name = [0x2E] then makeWay fs back rest
      else if name = [0x2E, 0x2E] then makeWay fs back.tail rest
      else if nameLimit < name.length then .error .longName
      else makeWay fs (name :: back) rest

def makeFolder (fs : Files) (path : List UInt8) : Except IoFault (Names × Files) :=
  if path.contains 0 then .error .nul
  else if path.isEmpty then .ok (fs.here, fs)
  else if pathLimit ≤ path.length then .error .longName
  else if path.head? == some slash then fs.makeWay [] (pieces path)
  else fs.makeWay fs.here.reverse (pieces path)

end RecordSearch.Files
