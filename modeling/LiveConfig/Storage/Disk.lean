import LiveConfig.Storage.Files

/-! What can be asked of the files of this machine. -/

namespace LiveConfig

structure Disk where
  present : FilePath → Except IoError Bool
  written : FilePath → Except IoError Stamp

def Files.disk (fs : Files) : Disk := ⟨fun p => fs.present p, fun p => fs.written p⟩

end LiveConfig
