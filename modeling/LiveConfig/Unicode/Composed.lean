import LiveConfig.Unicode.Composite

/-! The composed form of a text: composites are taken apart, marks are put in the order of their
classes, and what can be composed is composed. Texts that read the same have one such form. -/

namespace LiveConfig.Unicode

def combiningClass (c : Char) : Nat :=
  if c.toNat < 0x300 then 0 else (combiningClasses.value? c).getD 0

/-! Syllables of Hangul are composites by arithmetic: an initial with a vowel, and such a pair with
a final. -/

namespace Hangul

def syllables : Nat := 0xAC00
def initials : Nat := 0x1100
def vowels : Nat := 0x1161
def finals : Nat := 0x11A7
def initialCount : Nat := 19
def vowelCount : Nat := 21

def finalCount : Nat := 28

def syllableCount : Nat := initialCount * vowelCount * finalCount

def parts? (c : Char) : Option (Char × Char) :=
  let n := c.toNat - syllables
  if c.toNat < syllables ∨ syllableCount ≤ n then none
  else if n % finalCount = 0 then
    some (Char.ofNat (initials + n / finalCount / vowelCount),
      Char.ofNat (vowels + n / finalCount % vowelCount))
  else
    some (Char.ofNat (c.toNat - n % finalCount), Char.ofNat (finals + n % finalCount))

def whole? (a b : Char) : Option Char :=
  let i := a.toNat - initials
  let v := b.toNat - vowels
  let n := a.toNat - syllables
  let f := b.toNat - finals
  if initials ≤ a.toNat ∧ i < initialCount ∧ vowels ≤ b.toNat ∧ v < vowelCount then
    some (Char.ofNat (syllables + (i * vowelCount + v) * finalCount))
  else if syllables ≤ a.toNat ∧ n < syllableCount ∧ n % finalCount = 0 ∧ finals < b.toNat
      ∧ f < finalCount then
    some (Char.ofNat (a.toNat + f))
  else none

end Hangul

def parts? (c : Char) : Option (Char × Char) :=
  if c.toNat < 0xC0 then none
  else (Hangul.parts? c).or <|
    match composites.entry? c with
    | some [a, b] => some (Char.ofNat a, Char.ofNat b)
    | _ => none

def whole? (a b : Char) : Option Char :=
  if b.toNat < 0x300 then none
  else (Hangul.whole? a b).or (composites.source? [a.toNat, b.toNat])

def deepest : Nat := 3

def takeApart : Nat → Char → List Char
  | 0, c => [c]
  | n + 1, c =>
    match parts? c with
    | some (a, b) => takeApart n a ++ [b]
    | none => [c]

def place (c : Char) : List Char → List Char
  | [] => [c]
  | d :: ds =>
    if 0 < combiningClass d ∧ combiningClass d < combiningClass c then d :: place c ds
    else c :: d :: ds

def inOrder (cs : List Char) : List Char := cs.foldr place []

/-- Composes a text behind a base and the marks that stayed on it. A mark reaches the base if it
touches none of these. -/
def composeOn (base : Char) (marks : List Char) : List Char → List Char
  | [] => base :: marks
  | c :: cs =>
    let reaches := marks.getLast?.all fun m => combiningClass m < combiningClass c
    match if reaches then whole? base c else none with
    | some d => composeOn d marks cs
    | none =>
      if combiningClass c = 0 then base :: marks ++ composeOn c [] cs
      else composeOn base (marks ++ [c]) cs

def composed (cs : List Char) : List Char :=
  match inOrder (cs.flatMap (takeApart deepest)) with
  | [] => []
  | c :: cs => composeOn c [] cs

end LiveConfig.Unicode
