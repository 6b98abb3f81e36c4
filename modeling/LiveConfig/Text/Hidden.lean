import LiveConfig.Unicode.Ignorable
import LiveConfig.Unicode.Mark
import LiveConfig.Unicode.Printable

/-! Characters that do not show by themselves. -/

namespace LiveConfig.Text

/-- Whether a character would not be seen for what it is: it shows nothing, or only together with
the character before it. -/
def isHidden (c : Char) : Bool :=
  !Unicode.isPrintable c || Unicode.isExtender c
    || (0x80 ≤ c.toNat && Unicode.ignorable.contains c)

end LiveConfig.Text
