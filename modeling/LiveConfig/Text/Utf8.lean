/-! Text as UTF-8 bytes: decoding with the errors marked, and cutting at a number of bytes. -/

namespace LiveConfig.Text

def utf8 (cs : List Char) : List UInt8 :=
  cs.flatMap String.utf8EncodeChar

/-- A character that has begun: how many bytes are missing, the bits so far, and the range in
which the next byte must be. -/
structure Begun where
  missing : Nat
  bits : Nat
  low : Nat
  high : Nat

def beginAt (b : Nat) : Option Char ⊕ Begun :=
  if b < 0x80 then .inl (some (Char.ofNat b))
  else if 0xC2 ≤ b ∧ b ≤ 0xDF then .inr ⟨1, b % 0x20, 0x80, 0xBF⟩
  else if 0xE0 ≤ b ∧ b ≤ 0xEF then
    .inr ⟨2, b % 0x10, if b = 0xE0 then 0xA0 else 0x80, if b = 0xED then 0x9F else 0xBF⟩
  else if 0xF0 ≤ b ∧ b ≤ 0xF4 then
    .inr ⟨3, b % 8, if b = 0xF0 then 0x90 else 0x80, if b = 0xF4 then 0x8F else 0xBF⟩
  else .inl none

/-- Decodes bytes; each longest piece that begins a character and does not end one is one error. -/
def decodeFrom : Option Begun → List UInt8 → List (Option Char)
  | none, [] => []
  | some _, [] => [none]
  | none, b :: rest =>
    match beginAt b.toNat with
    | .inl c => c :: decodeFrom none rest
    | .inr s => decodeFrom (some s) rest
  | some s, b :: rest =>
    let n := b.toNat
    if s.low ≤ n ∧ n ≤ s.high then
      let bits := s.bits * 0x40 + n % 0x40
      if s.missing ≤ 1 then some (Char.ofNat bits) :: decodeFrom none rest
      else decodeFrom (some ⟨s.missing - 1, bits, 0x80, 0xBF⟩) rest
    else
      match beginAt n with
      | .inl c => none :: c :: decodeFrom none rest
      | .inr s => none :: decodeFrom (some s) rest

def decode (bytes : List UInt8) : List (Option Char) := decodeFrom none bytes

def ofUtf8? (bytes : List UInt8) : Option (List Char) := (decode bytes).mapM id

def ofUtf8Lossy (bytes : List UInt8) : String :=
  String.ofList ((decode bytes).map (·.getD (Char.ofNat 0xFFFD)))

inductive Cut where
  | apart (front rest : List Char)
  | tooShort
  | inside
  deriving DecidableEq, Repr

def Cut.push (c : Char) : Cut → Cut
  | apart front rest => apart (c :: front) rest
  | other => other

def cut : Nat → List Char → Cut
  | 0, cs => .apart [] cs
  | _ + 1, [] => .tooShort
  | n + 1, c :: cs => if c.utf8Size ≤ n + 1 then (cut (n + 1 - c.utf8Size) cs).push c else .inside

end LiveConfig.Text
