import LiveConfig.Bean.Declaration
import LiveConfig.Bean.Error
import LiveConfig.Bean.ParamType
import LiveConfig.Value.Access

/-! Choosing among constructors. An argument fits a parameter exactly, by conversion, or not at
all; the candidate with the most exact fits is chosen unless another has as many. -/

namespace LiveConfig

inductive Fit where
  | exact
  | convertible
  deriving DecidableEq, Repr

namespace Matching

def literalFit? : Value → ParamType → Option Fit
  | _, .any => some .convertible
  | .text _, .text | .text _, .int | .text _, .float | .text _, .bool => some .convertible
  | .signed _, .int | .unsigned _, .int => some .exact
  | .signed _, .float | .unsigned _, .float => some .convertible
  | .signed _, .text | .unsigned _, .text => some .convertible
  | .float _, .float => some .exact
  | .bool _, .bool => some .exact
  | .float _, .text | .bool _, .text => some .convertible
  | .absent, .text | .absent, .bean _ => some .convertible
  | _, _ => none

def shapeFits (a : ArgumentValue Declaration) (p : ParamType) : Bool :=
  match a with
  | .nested _ => !p.isScalar
  | .literal v => p.isScalar || p = .any || v.isAbsent

/-- A hint decides alone: it names the parameter's type or the argument does not fit. -/
def fit? (a : Argument Declaration) (p : ParamType) : Option Fit :=
  match a.hint with
  | some hint => if ParamType.ofName hint = p ∧ shapeFits a.value p then some .exact else none
  | none =>
    match a.value, p with
    | .literal v, p => literalFit? v p
    | .nested d, .bean c =>
      match d.className with
      | some name => if name = c then some .exact else none
      | none => some .convertible
    | .nested _, .any => some .convertible
    | .nested _, _ => none

def score? : List ParamType → List (Argument Declaration) → Option Nat
  | [], [] => some 0
  | p :: ps, a :: as => do
    let fit ← fit? a p
    let rest ← score? ps as
    some (rest + if fit = .exact then 1 else 0)
  | _, _ => none

inductive Best (κ : Type) where
  | none
  | one (score : Nat) (candidate : κ)
  | tied (score : Nat)

namespace Best

variable {κ : Type}

def score? : Best κ → Option Nat
  | none => Option.none
  | one s _ | tied s => some s

def add (best : Best κ) (candidate : κ) (score : Nat) : Best κ :=
  match best.score? with
  | Option.none => one score candidate
  | some s =>
    if score < s then best
    else if score = s then tied s
    else one score candidate

end Best

/-- Chooses a constructor for a call. A call without arguments takes the first constructor without
parameters. -/
def find {κ : Type} (className : String) (params : κ → List ParamType) (constructors : List κ)
    (args : List (Argument Declaration)) : Except BeanError κ :=
  let noMatch := .error (.noMatchingConstructor className (Declaration.displayArguments args))
  if args.isEmpty then
    match constructors.find? fun c => (params c).isEmpty with
    | some c => .ok c
    | none => noMatch
  else
    let consider (best : Best κ) (c : κ) : Best κ :=
      match score? (params c) args with
      | some s => best.add c s
      | none => best
    match constructors.foldl consider .none with
    | .none => noMatch
    | .one _ c => .ok c
    | .tied _ =>
      .error (.ambiguousConstructor className (Declaration.displayArguments args))

def convertLiteral? (v : Value) : ParamType → Option Value
  | .text =>
    if v.isAbsent then some .absent
    else if v.isScalar then some (.text v.display)
    else none
  | .int =>
    match v with
    | .unsigned n => some (.unsigned n)
    | v =>
      match v.toInt? .i64 with
      | some n => some (.signed (.ofInt n))
      | none => (v.toInt? .u64).map fun n => .unsigned (.ofNat n.toNat)
  | .float => (v.toBinary? .double).map .float
  | .bool => v.toBool?.map .bool
  | .bean _ | .any => some v

end Matching
end LiveConfig
