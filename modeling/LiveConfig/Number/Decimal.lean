import LiveConfig.Number.Binary

/-! Decimals: a whole coefficient and a power of ten. Reading one as a binary number rounds once;
writing a binary number takes the fewest digits that read back, and of those the nearest. -/

namespace LiveConfig

structure Decimal where
  negative : Bool
  coefficient : Nat
  exponent : Int
  deriving DecidableEq, Repr

def digitCount (n : Nat) : Nat :=
  if n = 0 then 0 else (Nat.toDigits 10 n).length

def tenfold (c : Nat) (e : Int) : Nat × Nat :=
  match e with
  | .ofNat k => (c * Nat.pow 10 k, 1)
  | .negSucc k => (c, Nat.pow 10 (k + 1))

namespace Decimal

/-- Rounds once. A decimal of order `k` lies between the powers of ten `k - 1` and `k`, so orders
far outside the format need no arithmetic. -/
def toBinary (f : Format) (d : Decimal) : Binary f :=
  let order := (digitCount d.coefficient : Int) + d.exponent
  let reach := (Nat.pow 2 (f.exponentBits - 1) + f.precision : Nat)
  if d.coefficient = 0 ∨ order < -(reach : Int) then .ofRank d.negative 0
  else if order > reach then .infinite d.negative
  else
    let (n, m) := tenfold d.coefficient d.exponent
    .ofRatio d.negative n m

end Decimal

namespace Format

/-- Whether `c * 10 ^ e` is nearer to the magnitude of this rank than to its neighbours; the
points half way belong to the even rank. -/
def readsBack (f : Format) (rank c : Nat) (e : Int) : Bool :=
  let (n, d) := tenfold c e
  let low := (f.scaled (rank - 1) + f.scaled rank) * d
  let high := (f.scaled rank + f.scaled (rank + 1)) * d
  let point := 2 * n * f.unit
  if rank % 2 = 0 then low ≤ point && point ≤ high else low < point && point < high

def decimalOrder (n d : Nat) : Int :=
  if d ≤ n then (digitCount (n / d) : Int) - 1
  else -(digitCount ((d + n - 1) / n - 1) : Int)

/-- The best point that reads back among the multiples of `10 ^ e`: of the two around the
magnitude the nearer, and the upper one when both are equally near. -/
def gridPoint? (f : Format) (rank : Nat) (e : Int) : Option Nat :=
  let (p, q) := tenfold 1 e
  let n := f.scaled rank * q
  let d := f.unit * p
  let low := n / d
  let rest := n % d
  match f.readsBack rank low e, f.readsBack rank (low + 1) e with
  | true, true => some (if 2 * rest < d then low else low + 1)
  | true, false => some low
  | false, true => some (low + 1)
  | false, false => none

def digitsEnough (f : Format) : Nat := f.precision * 3 / 10 + 2

def shortest (f : Format) (rank : Nat) : Nat × Int :=
  let order := decimalOrder (f.scaled rank) f.unit
  let grids := (List.range f.digitsEnough).map fun k : Nat => order - k
  (grids.findSome? fun e => (f.gridPoint? rank e).map (·, e)).getD (0, 0)

end Format

def stripZeros (ds : List Char) : List Char × Nat :=
  let kept := (ds.reverse.dropWhile (· = '0')).reverse
  (kept, ds.length - kept.length)

def positional (c : Nat) (e : Int) : String :=
  let (ds, zeros) := stripZeros (Nat.toDigits 10 c)
  let e := e + zeros
  let point := (ds.length : Int) + e
  let text :=
    if 0 ≤ e then ds ++ List.replicate e.toNat '0'
    else if 0 < point then ds.take point.toNat ++ '.' :: ds.drop point.toNat
    else '0' :: '.' :: List.replicate (-point).toNat '0' ++ ds
  String.ofList text

namespace Binary

variable {f : Format}

def display : Binary f → String
  | nan => "NaN"
  | infinite s => if s then "-inf" else "inf"
  | finite s r =>
    let text := if r.val = 0 then "0" else
      let (c, e) := f.shortest r
      positional c e
    if s then "-" ++ text else text

end Binary
end LiveConfig
