import LiveConfig.Json.Document
import LiveConfig.Number.Numeral

/-! Numbers in JSON texts. A coefficient has 64 bits: digits that no longer fit lose their value
and keep their place. What is no whole number in range is the coefficient times a power of ten, in
floating point. -/

namespace LiveConfig.Json.Numeral

open LiveConfig.Numeral (isDigit digitValue value)

/-- Takes digits into a coefficient until one does not fit into 64 bits; that digit and all behind
it are left. -/
def fill (c : Nat) : List Char → Nat × List Char
  | [] => (c, [])
  | d :: ds =>
    if 10 * c + digitValue d < Nat.pow 2 64 then fill (10 * c + digitValue d) ds else (c, d :: ds)

def greatestPower : Nat := 308

def powerOfTen (k : Nat) : Nat := Format.double.nearest (Nat.pow 10 k) 1

/-- The rank of `c * 10 ^ e` as doubles compute it, one power of ten at a time; none beyond the
finite magnitudes. Three divisions leave nothing of 64 bits. -/
def scaled? (c : Nat) (e : Int) : Option (Fin Format.double.ranks) :=
  let r := Format.double.nearest c 1
  let rank :=
    if r = 0 then 0
    else match e with
      | .ofNat k =>
        if k ≤ greatestPower then Format.double.product r (powerOfTen k) else Format.double.ranks
      | .negSucc k =>
        if k < greatestPower then Format.double.quotient r (powerOfTen (k + 1))
        else if k < 2 * greatestPower then
          Format.double.quotient (Format.double.quotient r (powerOfTen greatestPower))
            (powerOfTen (k + 1 - greatestPower))
        else 0
  if h : rank < Format.double.ranks then some ⟨rank, h⟩ else none

structure Written where
  negative : Bool
  digits : List Char
  fraction : List Char
  exponent : Option Int

/-- A whole number of 64 bits is kept as it is; zero has a sign, which only a float keeps. -/
def Written.number? (w : Written) : Option Number :=
  let (c, left) := fill 0 w.digits
  let (n, rest) := fill c w.fraction
  let whole := w.fraction.isEmpty && w.exponent.isNone && left.isEmpty
  if whole && !w.negative then some (.natural (.ofNat n))
  else if whole && 0 < n && n ≤ Nat.pow 2 63 then some (.negative (.ofInt (-n)))
  else
    let taken := w.fraction.length - rest.length
    (scaled? n (w.exponent.getD 0 + left.length - taken)).map fun r =>
      .float (.finite w.negative r)

def digits? (cs : List Char) : Option (List Char × List Char) :=
  match cs.takeWhile isDigit with
  | [] => none
  | ds => some (ds, cs.dropWhile isDigit)

def whole? : List Char → Option (List Char × List Char)
  | '0' :: rest => some (['0'], rest)
  | cs => digits? cs

def fraction? : List Char → Option (List Char × List Char)
  | '.' :: cs => digits? cs
  | cs => some ([], cs)

def exponent? : List Char → Option (Option Int × List Char)
  | c :: cs =>
    if c = 'e' ∨ c = 'E' then
      let (down, cs) := LiveConfig.Numeral.sign cs
      (digits? cs).map fun (ds, cs) => (some (if down then -(value ds : Int) else value ds), cs)
    else some (none, c :: cs)
  | [] => some (none, [])

def next? (cs : List Char) : Option (Number × List Char) := do
  let (negative, cs) := match cs with
    | '-' :: cs => (true, cs)
    | cs => (false, cs)
  let (digits, cs) ← whole? cs
  let (fraction, cs) ← fraction? cs
  let (exponent, cs) ← exponent? cs
  let n ← (Written.mk negative digits fraction exponent).number?
  some (n, cs)

end LiveConfig.Json.Numeral
