/-! White space of the Unicode standard, and cutting it off both ends of a text. -/

namespace LiveConfig.Text

/-- The code points with the property White_Space. -/
def isBlank (c : Char) : Bool :=
  let n := c.toNat
  (9 ≤ n && n ≤ 13) || n = 0x20 || n = 0x85 || n = 0xA0 || n = 0x1680
    || (0x2000 ≤ n && n ≤ 0x200A) || n = 0x2028 || n = 0x2029 || n = 0x202F
    || n = 0x205F || n = 0x3000

def trimChars (cs : List Char) : List Char :=
  ((cs.dropWhile isBlank).reverse.dropWhile isBlank).reverse

def trim (s : String) : String :=
  String.ofList (trimChars s.toList)

/-- A text with something to read in it: `none` for a blank one, else the trimmed text. -/
def trimmed? (s : String) : Option String :=
  match trimChars s.toList with
  | [] => none
  | cs => some (String.ofList cs)

def lowerChars (cs : List Char) : List Char :=
  cs.map Char.toLower

theorem trimmed?_eq_none_iff {s : String} : trimmed? s = none ↔ trimChars s.toList = [] := by
  unfold trimmed?
  split <;> simp_all

theorem trimmed?_eq_some_iff {s t : String} :
    trimmed? s = some t ↔ trimChars s.toList ≠ [] ∧ trim s = t := by
  unfold trimmed? trim
  split <;> simp_all

end LiveConfig.Text
