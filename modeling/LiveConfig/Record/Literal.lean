import LiveConfig.Text.Blank
import LiveConfig.Text.Hex

/-! Text literals as they are written: between quotes with escapes, or as they stand behind `r` and
between as many hashes on both sides. -/

namespace LiveConfig.Record.Literal

open Text (hexValue? hexNumber?)

def braced? : List Char → Option (Char × List Char)
  | '\x7b' :: cs =>
    let word := cs.takeWhile (· ≠ '\x7d')
    let digits := word.filter (· ≠ '_')
    match hexNumber? digits, cs.dropWhile (· ≠ '\x7d') with
    | some n, _ :: rest =>
      if n.isValidChar ∧ digits.length ≤ 6 ∧ word.head? ≠ some '_' then some (Char.ofNat n, rest)
      else none
    | _, _ => none
  | _ => none

def byte? : List Char → Option (Char × List Char)
  | a :: b :: rest => do
    let n := (← hexValue? a) * 16 + (← hexValue? b)
    if n < 0x80 then some (Char.ofNat n, rest) else none
  | _ => none

def escaped? : List Char → Option (Option Char × List Char)
  | 'n' :: rest => some (some '\n', rest)
  | 'r' :: rest => some (some '\r', rest)
  | 't' :: rest => some (some '\t', rest)
  | '0' :: rest => some (some '\x00', rest)
  | '\\' :: rest => some (some '\\', rest)
  | '\x27' :: rest => some (some '\x27', rest)
  | '"' :: rest => some (some '"', rest)
  | 'x' :: rest => (byte? rest).map fun (c, rest) => (some c, rest)
  | 'u' :: rest => (braced? rest).map fun (c, rest) => (some c, rest)
  | '\n' :: rest => some (none, rest.dropWhile Text.isBlank)
  | '\r' :: '\n' :: rest => some (none, rest.dropWhile Text.isBlank)
  | _ => none

/-- The text up to the closing quote, and what is behind it. Every step takes at least one
character, so the length of the text is fuel enough. -/
def quoted? : Nat → List Char → Option (List Char × List Char)
  | 0, _ => none
  | _ + 1, [] => none
  | _ + 1, '"' :: rest => some ([], rest)
  | fuel + 1, '\\' :: rest => do
    let (c?, rest) ← escaped? rest
    let (text, rest) ← quoted? fuel rest
    some (c?.toList ++ text, rest)
  | fuel + 1, '\r' :: '\n' :: rest =>
    (quoted? fuel rest).map fun (text, rest) => ('\n' :: text, rest)
  | fuel + 1, c :: rest => (quoted? fuel rest).map fun (text, rest) => (c :: text, rest)

def raw? (hashes : List Char) : List Char → Option (List Char × List Char)
  | [] => none
  | c :: cs =>
    if c = '"' ∧ hashes.isPrefixOf cs then some ([], cs.drop hashes.length)
    else (raw? hashes cs).map fun (text, rest) => (c :: text, rest)

/-- A name that follows a literal at once is part of it and says nothing. -/
def dropSuffix (cs : List Char) : List Char :=
  let isStart (c : Char) := c.isAlpha || c = '_' || 0x80 ≤ c.toNat
  match cs with
  | c :: rest => if isStart c then rest.dropWhile fun c => isStart c || c.isDigit else cs
  | [] => []

def read? (cs : List Char) : Option (String × List Char) :=
  (match cs with
    | '"' :: rest => quoted? (rest.length + 1) rest
    | 'r' :: rest =>
      let hashes := rest.takeWhile (· = '#')
      match rest.drop hashes.length with
      | '"' :: rest => raw? hashes rest
      | _ => none
    | _ => none).map fun (text, rest) => (String.ofList text, dropSuffix rest)

/-- What is between quotes is the text itself where nothing has to be escaped. -/
theorem quoted?_plain {cs : List Char} (h : ∀ c ∈ cs, c ≠ '"' ∧ c ≠ '\\' ∧ c ≠ '\r')
    (rest : List Char) (n : Nat) : quoted? (cs.length + 1 + n) (cs ++ '"' :: rest) =
      some (cs, rest) := by
  induction cs with
  | nil => rw [List.length_nil, Nat.zero_add, Nat.add_comm]; rfl
  | cons c cs ih =>
    have hc := h c List.mem_cons_self
    have := ih fun d hd => h d (List.mem_cons_of_mem _ hd)
    rw [List.length_cons, show cs.length + 1 + 1 + n = (cs.length + 1 + n) + 1 by omega,
      List.cons_append, quoted?]
    · rw [this]; rfl
    · exact hc.1
    · exact hc.2.1
    · exact fun _ hr => absurd hr hc.2.2

end LiveConfig.Record.Literal
