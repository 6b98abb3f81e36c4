import LiveConfig.Bean.Error
import LiveConfig.Bean.FieldType

/-! What is handed to a property or to a constructor's parameter, and its conversion to the type
that is wanted there. -/

namespace LiveConfig

class Typed (β : Type) where
  typeName : β → String

inductive Property (β : Type) where
  | value (v : Value)
  | bean (b : β)
  | beans (bs : List β)

namespace Property

variable {β : Type}

def describe : Property β → String
  | value v => v.display
  | bean _ => "<bean>"
  | beans bs => s!"<{bs.length} beans>"

def literal? : Property β → Option Value
  | value v => some v
  | _ => none

def scalar {α : Type} (expected : String) (read : Value → Option α) :
    Property β → Except PropertyError α
  | value v =>
    match read v with
    | some x => .ok x
    | none => .error (.conversion expected v.display)
  | p => .error (.conversion expected p.describe)

def textOf? (v : Value) : Option String :=
  if v.isScalar then some v.display else none

def integer? (k : IntKind) (v : Value) : Option { n : Int // k.Holds n } :=
  match h : v.toInt? k with
  | some n => some ⟨n, Value.holds_of_toInt? h⟩
  | none => none

/-- Conversion to a type. What is none becomes a missing value or an empty list, what is not a
list becomes a list of one; paths are read as text is. -/
def convert : (t : FieldType) → Property β → Except PropertyError t.Datum
  | .bool => scalar "bool" Value.toBool?
  | .integer k => scalar k.name (integer? k)
  | .single => scalar "f32" (Value.toBinary? .single)
  | .double => scalar "f64" (Value.toBinary? .double)
  | .text => scalar "String" textOf?
  | .path => scalar "String" textOf?
  | .value => scalar "ConfigValue" some
  | .option t => fun p =>
    match p with
    | value .absent => .ok none
    | p => (convert t p).map some
  | .list t => fun p =>
    match p with
    | value (.list items) => items.mapM fun v => convert t (value v)
    | value .absent => .ok []
    | beans bs => bs.mapM fun b => convert t (bean b)
    | p => (convert t p).map fun x => [x]

variable [Typed β]

def toBean (type : String) : Property β → Except PropertyError β
  | bean b =>
    if Typed.typeName b = type then .ok b
    else .error (.conversion type "bean of another type")
  | p => .error (.conversion type p.describe)

def toBeans (type : String) : Property β → Except PropertyError (List β)
  | beans bs => bs.mapM fun b => toBean type (bean b)
  | bean b => (toBean type (bean b)).map fun b => [b]
  | value .absent => .ok []
  | p => .error (.conversion type p.describe)

end Property
end LiveConfig
