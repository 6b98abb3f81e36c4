import LiveConfig.Unicode.Table

/-! Code points without a character as far as text is shown, which names may have already. -/

namespace LiveConfig.Unicode

/-- Blocks that get new characters in the next version of the standard, up to their ends. -/
def recent : Table := .ofLines
  ["530 557-558 58B-58C 1ADE-1ADF 1AEC-1AFF 208F 209D-209F 20C2-20C4 2E5E-2E7F A7DD-A7F0",
   "107BB-107BF 10EC8-10ECF 10EF0-10EF9 11B0A-11B5F 11DF0-11DFF 1246F 12475-1247F 12550-1268F",
   "16D80-16DAF 18D1F-18D7F 18E00-191DF 1B168-1B16F 1CED1-1CEDF 1CEF1-1CEFF 1D1EB-1D1FF",
   "1D250-1D28F 1D6A6-1D6A7 1DB00-1DBFF 1DF1F-1DF24 1DF2B-1DFFF 1F1AE-1F1AF 1F6D9 1F7DA-1F7DF",
   "1FA8B-1FA8D 1FAC9-1FACC 1FADD 1FAEB-1FAEE 1FAF9-1FAFA 2B81E-2B81F 3D000-3FC3F"]

end LiveConfig.Unicode
