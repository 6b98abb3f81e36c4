import LiveConfig.Location.DomainName
import LiveConfig.Text.Hex
import LiveConfig.Text.Pieces
import LiveConfig.Text.Utf8

/-! The host in a location: whether it is one at all, and whether it is this machine. -/

namespace LiveConfig.Host

open Text (hexValue? splitOn)

def percentDecode : List Char → List UInt8
  | '%' :: a :: b :: rest =>
    match hexValue? a, hexValue? b with
    | some x, some y => .ofNat (x * 16 + y) :: percentDecode rest
    | _, _ => 0x25 :: percentDecode (a :: b :: rest)
  | c :: rest => String.utf8EncodeChar c ++ percentDecode rest
  | [] => []

def number? (cs : List Char) : Option Nat :=
  let (base, digits) := match cs with
    | '0' :: 'x' :: rest => (16, rest)
    | '0' :: d :: rest => (8, d :: rest)
    | cs => (10, cs)
  if cs = [] then none
  else digits.foldlM (fun n c => do
    let d ← hexValue? c
    if d < base then some (n * base + d) else none) 0

def parts (cs : List Char) : List (List Char) :=
  match (splitOn (· = '.') cs).reverse with
  | [] :: p :: rest => (p :: rest).reverse
  | reversed => reversed.reverse

def endsInNumber (cs : List Char) : Bool :=
  match (parts cs).getLast? with
  | some p => p ≠ [] && ((number? p).isSome || p.all fun c => '0' ≤ c && c ≤ '9')
  | none => false

def isAddress4 (cs : List Char) : Bool :=
  match (parts cs).mapM number? with
  | none => false
  | some ns =>
    ns.length ≤ 4 && ns.dropLast.all (· < 256)
      && (ns.getLast?.getD 0) < Nat.pow 256 (5 - ns.length)

def isGroup (cs : List Char) : Bool :=
  cs ≠ [] && cs.length ≤ 4 && cs.all fun c => (hexValue? c).isSome

def isOctet (cs : List Char) : Bool :=
  match cs with
  | ['0'] => true
  | '0' :: _ => false
  | cs => cs ≠ [] && cs.length ≤ 3 && cs.all (fun c => '0' ≤ c && c ≤ '9')
    && ((number? cs).getD 256) < 256

/-- How many groups a part of an address of version 6 stands for, where a dotted address may end
it. -/
def groups? (dotted : Bool) (cs : List Char) : Option Nat :=
  if cs = [] then some 0
  else
    let pieces := splitOn (· = ':') cs
    match pieces.getLast? with
    | none => none
    | some last =>
      let octets := splitOn (· = '.') last
      if pieces.all isGroup then some pieces.length
      else if dotted && pieces.dropLast.all isGroup && octets.length = 4 && octets.all isOctet then
        some (pieces.length + 1)
      else none

def doubleColon? : List Char → Option (List Char × List Char)
  | ':' :: ':' :: rest => some ([], rest)
  | c :: cs => (doubleColon? cs).map fun (a, b) => (c :: a, b)
  | [] => none

def isAddress6 (cs : List Char) : Bool :=
  match doubleColon? cs with
  | none => groups? true cs = some 8
  | some (a, b) =>
    match groups? false a, groups? true b with
    | some m, some n => m + n < 8
    | _, _ => false

inductive Kind where
  | thisMachine
  | other
  | invalid
  deriving DecidableEq, Repr

def kindOfName (cs : List Char) : Kind :=
  match DomainName.read? cs with
  | none => .invalid
  | some name =>
    if name = [] then .invalid
    else if name = "localhost".toList then .thisMachine
    else if endsInNumber name then if isAddress4 name then .other else .invalid
    else .other

def kind (cs : List Char) : Kind :=
  match cs with
  | [] => .thisMachine
  | '[' :: rest =>
    if rest.getLast? = some ']' ∧ isAddress6 rest.dropLast then .other else .invalid
  | cs =>
    match Text.ofUtf8? (percentDecode cs) with
    | none => .invalid
    | some name => kindOfName name

end LiveConfig.Host
