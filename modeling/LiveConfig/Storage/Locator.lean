import LiveConfig.Storage.FileSystem
import LiveConfig.Text.Quoted

/-! Locators: ways to one resource that may be there or not. -/

namespace LiveConfig

structure Sight where
  present : Except IoError Bool
  written : Except IoError Stamp

namespace Sight

/-- Whether the date is asked for at all: only that of a resource that exists. -/
def isPresent (s : Sight) : Bool :=
  match s.present with
  | .ok b => b
  | .error _ => false

/-- When the resource was written; one that cannot be inspected counts as missing. -/
def stamp? (s : Sight) : Option Stamp :=
  if s.isPresent then s.written.toOption else none

end Sight

structure Storage where
  disk : Disk
  fileSystem : Nat → FileSystem

inductive Locator where
  | file (path : Option FilePath) (location : String)
  | inside (fileSystem : Nat) (location : Option String)
  | standIn (shown : Sight)

namespace Locator

def ofPath (p : FilePath) : Locator := .file (some p) p.display

def ofLocation (location : String) : Locator :=
  .file (Location.resolve location.toList).path? location

def last (set : List Locator) : Locator :=
  set.getLast?.getD (ofLocation "")

def path? : Locator → Option FilePath
  | file p _ => p
  | _ => none

def describe : Locator → String
  | file _ location => location
  | inside _ (some location) => location
  | inside _ none => "<unset>"
  | standIn _ => "stand-in"

def place? (s : Storage) : Locator → Except ReloadError (Option Place)
  | file p _ => .ok (p.map .file)
  | inside n (some location) => ((s.fileSystem n).resolve location).map some
  | inside _ none => .ok none
  | standIn _ => .ok none

def sight (s : Storage) : Locator → Sight
  | file (some p) _ => ⟨s.disk.present p, s.disk.written p⟩
  | file none location => ⟨.ok false, .error ⟨.notFound, s!"no file for location '{location}'"⟩⟩
  | inside n (some location) =>
    match (s.fileSystem n).resolve location with
    | .ok place => ⟨(s.fileSystem n).present place, (s.fileSystem n).written place⟩
    | .error e => ⟨.error ⟨.notFound, e.message⟩, .error ⟨.notFound, e.message⟩⟩
  | inside _ none => ⟨.ok false, .error ⟨.notFound, "no location set"⟩⟩
  | standIn shown => shown

/-- Whether a look at the resource breaks down. A locator of a file looks its location up when it is
made, one into a file system each time. -/
def isTorn (s : Storage) : Locator → Bool
  | file none location => Location.isTorn location
  | inside n (some location) => (s.fileSystem n).isTorn location
  | _ => false

def display : Locator → String
  | inside _ (some location) =>
    let name := Text.quoted location
    s!"VfsLocator \x7b uri: Some({name}) \x7d"
  | inside _ none => "VfsLocator \x7b uri: None \x7d"
  | file _ location => location
  | standIn _ => "stand-in"

end Locator
end LiveConfig
