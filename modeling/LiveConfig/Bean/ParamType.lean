import LiveConfig.Text.Blank

/-! The declared types of constructor parameters. -/

namespace LiveConfig

inductive ParamType where
  | text
  | bool
  | int
  | float
  | bean (className : String)
  | any
  deriving DecidableEq, Repr

namespace ParamType

/-- Many spellings name one type; an unknown name is that of a bean class. -/
def ofName (name : String) : ParamType :=
  match Text.trim name with
  | "String" | "string" | "str" => text
  | "boolean" | "Boolean" | "bool" => bool
  | "int" | "Integer" | "long" | "Long" | "short" | "Short" | "byte" | "Byte"
  | "i8" | "i16" | "i32" | "i64" | "isize"
  | "u8" | "u16" | "u32" | "u64" | "usize" => int
  | "float" | "Float" | "double" | "Double" | "f32" | "f64" => float
  | "Object" | "any" | "Any" => any
  | other => bean other

def name : ParamType → String
  | text => "String"
  | bool => "bool"
  | int => "int"
  | float => "float"
  | bean c => c
  | any => "any"

def kindName : ParamType → String
  | bean _ => "bean"
  | t => t.name

def isScalar : ParamType → Bool
  | text | bool | int | float => true
  | bean _ | any => false

end ParamType
end LiveConfig
