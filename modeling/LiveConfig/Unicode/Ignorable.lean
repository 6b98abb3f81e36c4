import LiveConfig.Unicode.Table

/-! Characters that are not drawn and do not count in names. -/

namespace LiveConfig.Unicode

def ignorable : Table := .ofLines
  ["AD 34F 115F-1160 17B4-17B5 180B-180F 200B 2060-2064 206A-206F 3164 FE00-FE0F FEFF FFA0",
   "1BCA0-1BCA3 1D173-1D17A E0100-E01EF"]

end LiveConfig.Unicode
