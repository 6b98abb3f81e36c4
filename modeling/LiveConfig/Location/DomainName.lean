import LiveConfig.Location.Punycode
import LiveConfig.Unicode.Composed
import LiveConfig.Unicode.Direction
import LiveConfig.Unicode.Folding
import LiveConfig.Unicode.Joining

/-! Names of hosts in any script. A name is folded and composed, and then each of its labels has to
be readable: no mark in front, joiners only where they change what is seen, and one direction. -/

namespace LiveConfig.DomainName

open Unicode (Direction direction)

def isForbidden (c : Char) : Bool :=
  c.toNat ≤ 0x20 || c.toNat = 0x7F || "#/:<>?@[\\]^|%".toList.contains c

def isPlain (c : Char) : Bool := c.toNat < 0x80

def fold? (cs : List Char) : Option (List Char) :=
  (cs.mapM Unicode.fold?).map fun pieces => Unicode.composed pieces.flatten

def decodedLimit : Nat := 2000

def encodedLimit : Nat := 1000

/-- What a label says. Behind `xn--` it is written in plain characters, and must be in the one
form when it is decoded. -/
def spelled? (label : List Char) : Option (List Char) :=
  match label with
  | 'x' :: 'n' :: '-' :: '-' :: rest =>
    if rest.all isPlain ∧ rest.length ≤ decodedLimit ∧ rest ≠ [] ∧ rest.getLast? ≠ some '-' then
      (Punycode.decode? rest).filter fun cs => fold? cs = some cs && !cs.any isForbidden
    else none
  | label => some label

def isNonJoiner (c : Char) : Bool := c.toNat = 0x200C

def isJoiner (c : Char) : Bool := c.toNat = 0x200D

def vowelKiller : Nat := 9

/-- Whether a joiner shows between two texts, the first one backwards: behind a letter without its
vowel, or to keep apart two letters that would join. -/
def shows (joiner : Char) (before behind : List Char) : Bool :=
  match before with
  | [] => false
  | c :: _ =>
    Unicode.combiningClass c = vowelKiller
      || isNonJoiner joiner
        && (before.dropWhile Unicode.joinsThrough).head?.any Unicode.joinsNext
        && (behind.dropWhile Unicode.joinsThrough).head?.any Unicode.joinsLast

def joinersShow (before : List Char) : List Char → Bool
  | [] => true
  | c :: cs =>
    (!(isNonJoiner c || isJoiner c) || shows c before cs) && joinersShow (c :: before) cs

def turns (c : Char) : Bool :=
  0x590 ≤ c.toNat
    && (direction c = .rightToLeft || direction c = .rightToLeftNumber)

def isStraight (cs : List Char) : Bool :=
  let ds := cs.map direction
  match ds.head?, (ds.reverse.dropWhile (· = .mark)).head? with
  | none, _ => true
  | some .leftToRight, some last =>
    (last = .leftToRight || last = .number)
      && !ds.contains .rightToLeft && !ds.contains .rightToLeftNumber
  | some .rightToLeft, some last =>
    (last = .rightToLeft || last = .number || last = .rightToLeftNumber)
      && !ds.contains .leftToRight
      && !(ds.contains .number && ds.contains .rightToLeftNumber)
  | _, _ => false

def isLabel (cs : List Char) : Bool :=
  !cs.head?.any Unicode.isMark && joinersShow [] cs
    && (cs.all isPlain || cs.length ≤ encodedLimit)

def read? (cs : List Char) : Option (List Char) := do
  let name ← fold? cs
  if name.any isForbidden then none
  else
    let labels ← (Text.splitOn (· = '.') name).mapM spelled?
    if labels.all isLabel ∧ (labels.any (·.any turns) → labels.all isStraight) then some name
    else none

end LiveConfig.DomainName
