/-! Binary floating point. The finite magnitudes of a format are counted from zero upwards, and
a number of the format is a sign with such a rank, an infinity, or the one not-a-number.
Rounding a ratio goes to the nearest rank, a half to the even one. -/

namespace LiveConfig

structure Format where
  precision : Nat
  exponentBits : Nat
  deriving DecidableEq, Repr

namespace Format

def single : Format := ⟨24, 8⟩
def double : Format := ⟨53, 11⟩

def binade (f : Format) : Nat := Nat.pow 2 (f.precision - 1)

def ranks (f : Format) : Nat := (Nat.pow 2 f.exponentBits - 1) * f.binade

def unit (f : Format) : Nat := Nat.pow 2 (Nat.pow 2 (f.exponentBits - 1) + f.precision - 3)

def scaled (f : Format) (rank : Nat) : Nat :=
  if rank < f.binade then rank
  else (f.binade + rank % f.binade) * Nat.pow 2 (rank / f.binade - 1)

/-- The integer nearest to `n / d`, the even one of two. -/
def divEven (n d : Nat) : Nat :=
  let q := n / d
  let r := n % d
  if 2 * r < d then q
  else if d < 2 * r then q + 1
  else q + q % 2

/-- The rank nearest to `n / d`; ranks from `f.ranks` on are beyond the finite magnitudes. -/
def nearest (f : Format) (n d : Nat) : Nat :=
  let target := n * f.unit
  let whole := target / d
  let e := if whole < Nat.pow 2 f.precision then 0 else whole.log2 - (f.precision - 1)
  e * f.binade + divEven target (d * Nat.pow 2 e)

def product (f : Format) (r q : Nat) : Nat :=
  f.nearest (f.scaled r * f.scaled q) (f.unit * f.unit)

def quotient (f : Format) (r q : Nat) : Nat :=
  f.nearest (f.scaled r) (f.scaled q)

end Format

inductive Binary (f : Format) where
  | nan
  | infinite (negative : Bool)
  | finite (negative : Bool) (rank : Fin f.ranks)
  deriving DecidableEq, Repr

abbrev Single := Binary .single
abbrev Double := Binary .double

namespace Binary

variable {f : Format}

def ofRank (negative : Bool) (rank : Nat) : Binary f :=
  if h : rank < f.ranks then .finite negative ⟨rank, h⟩ else .infinite negative

def ofRatio (negative : Bool) (n d : Nat) : Binary f :=
  ofRank negative (f.nearest n d)

def ofInt (n : Int) : Binary f :=
  ofRatio (n < 0) n.natAbs 1

def convert (g : Format) : Binary f → Binary g
  | nan => nan
  | infinite s => infinite s
  | finite s r => ofRatio s (f.scaled r) f.unit

def truncate? : Binary f → Option Int
  | finite s r =>
    let n : Int := (f.scaled r / f.unit : Nat)
    some (if s then -n else n)
  | _ => none

def sameNumber : Binary f → Binary f → Bool
  | finite s r, finite t q => r = q && (s = t || r.val = 0)
  | infinite s, infinite t => s = t
  | _, _ => false

def signBit (f : Format) : Nat := Nat.pow 2 f.exponentBits * f.binade

/-- The interchange encoding: the sign bit above the rank, infinity as the first rank too many. -/
def ofBits (f : Format) (bits : Nat) : Binary f :=
  let s := signBit f ≤ bits
  let rank := bits % signBit f
  if h : rank < f.ranks then .finite s ⟨rank, h⟩
  else if rank = f.ranks then .infinite s
  else .nan

def toBits? : Binary f → Option Nat
  | nan => none
  | infinite s => some ((if s then signBit f else 0) + f.ranks)
  | finite s r => some ((if s then signBit f else 0) + r)

end Binary
end LiveConfig
