import LiveConfig.Text.Pieces

/-! Names in other scripts written in letters, digits and hyphens. The plain characters come first;
behind the last hyphen, numbers of base 36 tell which other characters stand where. -/

namespace LiveConfig.Punycode

def digitValue? (c : Char) : Option Nat :=
  if 'a' ≤ c && c ≤ 'z' then some (c.toNat - 'a'.toNat)
  else if 'A' ≤ c && c ≤ 'Z' then some (c.toNat - 'A'.toNat)
  else if '0' ≤ c && c ≤ '9' then some (c.toNat - '0'.toNat + 26)
  else none

def threshold (place bias : Nat) : Nat :=
  if place ≤ bias then 1 else min (place - bias) 26

def shrink (delta place : Nat) : Nat × Nat :=
  if 455 < delta then shrink (delta / 35) (place + 36) else (delta, place)
termination_by delta
decreasing_by omega

def adapt (delta count : Nat) (first : Bool) : Nat :=
  let delta := if first then delta / 700 else delta / 2
  let (delta, place) := shrink (delta + delta / count) 0
  place + 36 * delta / (delta + 38)

def fit? (n : Nat) : Option Nat := if n < Nat.pow 2 32 then some n else none

def number? (bias place weight sum : Nat) : List Char → Option (Nat × List Char)
  | [] => none
  | c :: cs => do
    let d ← digitValue? c
    let sum ← fit? (sum + d * weight)
    if d < threshold place bias then some (sum, cs)
    else
      let weight ← fit? (weight * (36 - threshold place bias))
      number? bias (place + 36) weight sum cs

theorem length_of_number? {bias place weight sum : Nat} {cs : List Char} {r : Nat × List Char}
    (h : number? bias place weight sum cs = some r) : r.2.length < cs.length := by
  induction cs generalizing place weight sum with
  | nil => simp [number?] at h
  | cons c cs ih =>
    simp only [number?, Option.bind_eq_bind, Option.bind_eq_some_iff] at h
    obtain ⟨d, _, s, _, h⟩ := h
    split at h
    · simp only [Option.some.injEq] at h
      simp [← h]
    · obtain ⟨w, _, h⟩ := Option.bind_eq_some_iff.mp h
      exact Nat.lt_succ_of_lt (ih h)

def insertAll (bias code passed : Nat) (done cs : List Char) : Option (List Char) :=
  match cs with
  | [] => some done
  | c :: cs =>
    match _h : number? bias 36 1 passed (c :: cs) with
    | none => none
    | some (sum, rest) =>
      let count := done.length + 1
      let code := code + sum / count
      if code.isValidChar then
        insertAll (adapt (sum - passed) count (passed = 0)) code (sum % count + 1)
          (done.insertIdx (sum % count) (Char.ofNat code)) rest
      else none
termination_by cs.length
decreasing_by exact length_of_number? _h

/-- A hyphen in front of all ends no plain characters. -/
def decode? (cs : List Char) : Option (List Char) :=
  match (Text.splitOn (· = '-') cs).reverse with
  | rest :: plain :: more =>
    if plain :: more = [[]] then none
    else insertAll 72 128 0 (['-'].intercalate (plain :: more).reverse) rest
  | _ => insertAll 72 128 0 [] cs

end LiveConfig.Punycode
