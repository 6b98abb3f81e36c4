import LiveConfig.Value.Display

/-! Declarations of beans: which class and factory, which properties, nested beans and constructor
arguments. -/

namespace LiveConfig

inductive Nested (α : Type) where
  | single (a : α)
  | list (as : List α)

inductive ArgumentValue (α : Type) where
  | literal (v : Value)
  | nested (a : α)

structure Argument (α : Type) where
  value : ArgumentValue α
  hint : Option String

structure Declaration where
  className : Option String
  factoryName : Option String
  factoryParameter : Option Value
  properties : List (String × Value)
  nested : List (String × Nested Declaration)
  arguments : List (Argument Declaration)

namespace Argument

variable {α : Type}

def isNested (a : Argument α) : Bool :=
  match a.value with
  | .literal _ => false
  | .nested _ => true

end Argument

namespace Declaration

def empty : Declaration := ⟨none, none, none, [], [], []⟩

instance : Inhabited Declaration := ⟨empty⟩

def displayArgument (a : Argument Declaration) : String :=
  let value := match a.value with
    | .literal v => v.display
    | .nested d => match d.className with
      | some c => s!"<bean {c}>"
      | none => "<bean>"
  let hint := a.hint.getD "<none>"
  s!"(value={value}, type={hint})"

def displayArguments (args : List (Argument Declaration)) : String :=
  "[" ++ Value.join (args.map displayArgument) ++ "]"

end Declaration
end LiveConfig
