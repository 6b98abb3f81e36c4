import LiveConfig.Dict
import LiveConfig.Location.Resolve
import LiveConfig.Storage.Disk

/-! File systems: what a location means in one, and what is known about the resource there. -/

namespace LiveConfig

inductive Place where
  | file (p : FilePath)
  | memory (key : String)
  deriving DecidableEq, Repr

def Place.display : Place → String
  | file p => p.display
  | memory key => "memory:" ++ key

structure FileSystem where
  resolve : String → Except ReloadError Place
  present : Place → Except IoError Bool
  written : Place → Except IoError Stamp
  /-- The locations at which looking up breaks down; what `resolve` says of them never comes out. -/
  isTorn : String → Bool

namespace FileSystem

def elsewhere (p : Place) : IoError :=
  let name := p.display
  ⟨.invalidInput, s!"path '{name}' belongs to another file system"⟩

/-- Locations are paths, URLs of files, and entries of archives, which stand for the archive. -/
def resolveFile (location : String) : Except ReloadError Place :=
  match (Location.resolve location.toList).path? with
  | some p => .ok (.file p)
  | none => .error (.unresolvable location "location does not map to a local file")

def onDisk (d : Disk) : FileSystem where
  resolve := resolveFile
  present
    | .file p => d.present p
    | .memory key => .error (elsewhere (.memory key))
  written
    | .file p => d.written p
    | .memory key => .error (elsewhere (.memory key))
  isTorn := Location.isTorn

/-- Every location with something in it is a key. -/
def resolveKey (location : String) : Except ReloadError Place :=
  match Text.trimmed? location with
  | some _ => .ok (.memory location)
  | none => .error (.unresolvable location "empty location")

def inMemory (keys : Dict Stamp) : FileSystem where
  resolve := resolveKey
  present
    | .memory key => .ok (Dict.contains key keys)
    | .file p => .error (elsewhere (.file p))
  written
    | .memory key =>
      match Dict.get? key keys with
      | some t => .ok t
      | none => .error ⟨.notFound, s!"'{key}' does not exist"⟩
    | .file p => .error (elsewhere (.file p))
  isTorn _ := false

end FileSystem
end LiveConfig
