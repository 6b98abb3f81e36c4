import LiveConfig.Number.Integer
import LiveConfig.Number.Decimal
import LiveConfig.Text.Blank

/-! Numerals as text: whole numbers with an optional sign, and decimals with an optional point
and exponent. -/

namespace LiveConfig.Numeral

def isDigit (c : Char) : Bool := '0' ≤ c && c ≤ '9'

def digitValue (c : Char) : Nat := c.toNat - '0'.toNat

def value (ds : List Char) : Nat :=
  ds.foldl (fun n c => 10 * n + digitValue c) 0

def natural? (cs : List Char) : Option Nat :=
  if cs ≠ [] ∧ cs.all isDigit then some (value cs) else none

def sign : List Char → Bool × List Char
  | '-' :: cs => (true, cs)
  | '+' :: cs => (false, cs)
  | cs => (false, cs)

/-- A whole number of a kind. The unsigned kinds take no minus sign, not even before zero. -/
def integer? (k : IntKind) (cs : List Char) : Option Int :=
  let (negative, ds) := sign cs
  if negative && !k.signed then none
  else (natural? ds).bind fun n => k.fit? (if negative then -n else n)

def exponent? : List Char → Option Int
  | [] => some 0
  | c :: cs =>
    if c = 'e' ∨ c = 'E' then
      let (negative, ds) := sign cs
      (natural? ds).map fun n => if negative then -(n : Int) else n
    else none

/-- An unsigned decimal: digits with an optional point among them, at least one digit in all,
then an optional exponent. -/
def decimal? (negative : Bool) (cs : List Char) : Option Decimal :=
  let whole := cs.takeWhile isDigit
  let rest := cs.dropWhile isDigit
  let (fraction, rest) := match rest with
    | '.' :: rest => (rest.takeWhile isDigit, rest.dropWhile isDigit)
    | rest => ([], rest)
  if whole = [] ∧ fraction = [] then none
  else (exponent? rest).map fun e =>
    ⟨negative, value (whole ++ fraction), e - fraction.length⟩

def binary? (f : Format) (cs : List Char) : Option (Binary f) :=
  let (negative, cs) := sign cs
  match String.ofList (Text.lowerChars cs) with
  | "nan" => some .nan
  | "inf" | "infinity" => some (.infinite negative)
  | _ => (decimal? negative cs).map (·.toBinary f)

end LiveConfig.Numeral
