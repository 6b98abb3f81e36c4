import LiveConfig.Text.Utf8

/-! Paths of local files: bytes, mostly those of a text. -/

namespace LiveConfig

structure FilePath where
  bytes : List UInt8
  deriving DecidableEq, Repr

namespace FilePath

def ofChars (cs : List Char) : FilePath := ⟨Text.utf8 cs⟩

def ofString (s : String) : FilePath := ofChars s.toList

def toString? (p : FilePath) : Option String :=
  (Text.ofUtf8? p.bytes).map String.ofList

def display (p : FilePath) : String := Text.ofUtf8Lossy p.bytes

end FilePath
end LiveConfig
