import LiveConfig.Location.FilePath
import LiveConfig.Reload.Error
import LiveConfig.Storage.Stamp
import LiveConfig.Text.Pieces

/-! The files of this machine. A path is a walk through directories, of which there are few: the
one that files are kept in, the one where relative paths begin, and those above them. -/

namespace LiveConfig

structure StoredFile where
  text : String
  written : Stamp
  deriving DecidableEq, Repr

abbrev Names := List (List UInt8)

abbrev Files := List (Names × StoredFile)

/-- What a path leads to: a directory, a file, or a name in a directory that nothing has. -/
inductive Spot where
  | directory (names : Names)
  | file (names : Names) (f : StoredFile)
  | vacant (names : Names)
  deriving DecidableEq, Repr

namespace Files

def missing : IoError := ⟨.notFound, "No such file or directory (os error 2)"⟩

def notDirectory : IoError := ⟨.notADirectory, "Not a directory (os error 20)"⟩

def isDirectory : IoError := ⟨.isADirectory, "Is a directory (os error 21)"⟩

def nameTooLong : IoError := ⟨.invalidFilename, "File name too long (os error 36)"⟩

def endInName : IoError := ⟨.invalidInput, "file name contained an unexpected NUL byte"⟩

def nameLimit : Nat := 255

def pathLimit : Nat := 4096

def home : String := "files"

def start : String := "start"

def names (s : String) : Names := [Text.utf8 s.toList]

def path (name : String) : FilePath :=
  if name.startsWith "/" then .ofString name else .ofString ("/" ++ home ++ "/" ++ name)

def spot (ns : Names) (fs : Files) : Spot :=
  match fs.lookup ns with
  | some f => .file ns f
  | none => if ns = [] ∨ ns = names home ∨ ns = names start then .directory ns else .vacant ns

def step (fs : Files) (name : List UInt8) : Spot → Except IoError Spot
  | .file .. => .error notDirectory
  | .vacant _ => .error missing
  | .directory ns =>
    if name = [] ∨ name = [0x2E] then .ok (.directory ns)
    else if name = [0x2E, 0x2E] then .ok (.directory ns.dropLast)
    else if nameLimit < name.length then .error nameTooLong
    else .ok (fs.spot (ns ++ [name]))

def find (p : FilePath) (fs : Files) : Except IoError Spot :=
  if p.bytes.contains 0 then .error endInName
  else if p.bytes = [] then .error missing
  else if pathLimit ≤ p.bytes.length then .error nameTooLong
  else
    let first := if p.bytes.head? = some 0x2F then [] else names start
    (Text.splitOn (· = 0x2F) p.bytes).foldlM (fun s name => fs.step name s) (.directory first)

def get? (p : FilePath) (fs : Files) : Option StoredFile :=
  match fs.find p with
  | .ok (.file _ f) => some f
  | _ => none

def remove (p : FilePath) (fs : Files) : Files :=
  match fs.find p with
  | .ok (.file ns _) => fs.filter (·.1 ≠ ns)
  | _ => fs

def write (p : FilePath) (f : StoredFile) (fs : Files) : Files :=
  match fs.find p with
  | .ok (.file ns _) | .ok (.vacant ns) => (ns, f) :: fs.filter (·.1 ≠ ns)
  | _ => fs

def read (p : FilePath) (fs : Files) : Except IoError String := do
  match ← fs.find p with
  | .file _ f => .ok f.text
  | .directory _ => .error isDirectory
  | .vacant _ => .error missing

/-- Whether a path leads to anything. That it does not is an answer; any other failure is not. -/
def present (p : FilePath) (fs : Files) : Except IoError Bool :=
  match fs.find p with
  | .ok (.vacant _) => .ok false
  | .ok _ => .ok true
  | .error e => if e.kind = .notFound then .ok false else .error e

def written (p : FilePath) (fs : Files) : Except IoError Stamp := do
  match ← fs.find p with
  | .file _ f => .ok f.written
  | .directory _ => .ok (.lately 0)
  | .vacant _ => .error missing

theorem read_eq_ok_iff {p : FilePath} {fs : Files} {text : String} :
    fs.read p = .ok text ↔ ∃ f, fs.get? p = some f ∧ f.text = text := by
  unfold read get?
  cases fs.find p with
  | error e => simp [bind, Except.bind]
  | ok s => cases s <;> simp [bind, Except.bind]

end Files
end LiveConfig
