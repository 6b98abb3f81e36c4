import LiveConfig.Dict
import LiveConfig.Number.Binary

/-! Configuration values: what a document may hold at any place, with the type known only when the
document has been read. -/

namespace LiveConfig

inductive Value where
  | text (s : String)
  | signed (n : Int64)
  | unsigned (n : UInt64)
  | float (x : Double)
  | bool (b : Bool)
  | list (items : List Value)
  | map (entries : List (String × Value))
  | absent

namespace Value

instance : Inhabited Value := ⟨absent⟩

def isAbsent : Value → Bool
  | absent => true
  | _ => false

def isScalar : Value → Bool
  | list _ | map _ | absent => false
  | _ => true

def typeName : Value → String
  | text _ => "string"
  | signed _ | unsigned _ => "integer"
  | float _ => "float"
  | bool _ => "boolean"
  | list _ => "list"
  | map _ => "map"
  | absent => "none"

def asText? : Value → Option String
  | text s => some s
  | _ => none

def asList? : Value → Option (List Value)
  | list items => some items
  | _ => none

def asMap? : Value → Option (Dict Value)
  | map entries => some entries
  | _ => none

end Value
end LiveConfig
