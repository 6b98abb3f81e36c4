import LiveConfig.Bean.Declaration
import LiveConfig.Bean.Error
import LiveConfig.Dict
import LiveConfig.Text.Blank

/-! Declarations in configuration trees: a map describes a bean, reserved keys carry what is not a
property, maps and lists of maps under other keys are nested beans. -/

namespace LiveConfig.Tree

def reserved : String := "config-"
def classKey : String := "config-class"
def factoryKey : String := "config-factory"
def parameterKey : String := "config-factoryparam"
def argumentsKey : String := "config-constrarg"
def valueKey : String := "config-value"
def beanKey : String := "config-bean"
def typeKey : String := "config-type"

def isReserved (key : String) : Bool :=
  reserved.toList.isPrefixOf key.toList

def isMap : Value → Bool
  | .map _ => true
  | _ => false

/-- A nonempty list of maps and of nothing else: what is read as a list of nested beans. -/
def isListOfMaps (items : List Value) : Bool :=
  !items.isEmpty && items.all isMap

def name (key : String) (v : Value) : Except BeanError String :=
  match v.asText?.bind Text.trimmed? with
  | some s => .ok s
  | none =>
    .error (.invalidDeclaration s!"'{key}' must be a non-empty string, found {v.typeName}")

def hint (entries : Dict Value) : Except BeanError (Option String) :=
  match Dict.get? typeKey entries with
  | none => .ok none
  | some v => (name typeKey v).map some

def notAMap {α : Type} (v : Value) : Except BeanError α :=
  .error (.invalidDeclaration s!"expected a map, found {v.typeName}")

def notAnArgument {α : Type} (v : Value) : Except BeanError α :=
  .error (.invalidDeclaration s!"'{argumentsKey}' entries must be maps, found {v.typeName}")

def bothGiven {α : Type} : Except BeanError α :=
  .error (.invalidDeclaration s!"constructor argument has both '{valueKey}' and '{beanKey}'")

def argument (entries : Dict Value) (bean : Except BeanError (Option Declaration)) :
    Except BeanError (Argument Declaration) := do
  let value ← match Dict.get? valueKey entries with
    | some v => if Dict.contains beanKey entries then bothGiven else .ok (.literal v)
    | none => bean.map fun d => d.elim (.literal .absent) .nested
  let h ← hint entries
  .ok ⟨value, h⟩

mutual

def read : Value → Except BeanError Declaration
  | .map entries => readEntries .empty entries
  | v => notAMap v

/-- Reads the entries of a map one after the other, in ascending order of key, into a declaration.
The first entry that cannot be read decides the error. -/
def readEntries (d : Declaration) : List (String × Value) → Except BeanError Declaration
  | [] => .ok d
  | (key, v) :: rest => do
    if key = classKey then
      let c ← name key v
      readEntries { d with className := some c } rest
    else if key = factoryKey then
      let f ← name key v
      readEntries { d with factoryName := some f } rest
    else if key = parameterKey then
      readEntries { d with factoryParameter := some v } rest
    else if key = argumentsKey then
      let args ← readArguments v
      readEntries { d with arguments := d.arguments ++ args } rest
    else if isReserved key then
      readEntries d rest
    else
      let d ← readProperty d key v
      readEntries d rest

def readProperty (d : Declaration) (key : String) : Value → Except BeanError Declaration
  | .map entries => do
    let n ← readEntries .empty entries
    .ok { d with nested := Dict.insert key (.single n) d.nested }
  | .list items =>
    if isListOfMaps items then do
      let ns ← readAll items
      .ok { d with nested := Dict.insert key (.list ns) d.nested }
    else .ok { d with properties := Dict.insert key (.list items) d.properties }
  | v => .ok { d with properties := Dict.insert key v d.properties }

def readAll : List Value → Except BeanError (List Declaration)
  | [] => .ok []
  | v :: rest => do
    let d ← read v
    let ds ← readAll rest
    .ok (d :: ds)

def readArguments : Value → Except BeanError (List (Argument Declaration))
  | .list items => readEach items
  | .map entries => do
    let a ← argument entries (readBean entries)
    .ok [a]
  | v => notAnArgument v

def readEach : List Value → Except BeanError (List (Argument Declaration))
  | [] => .ok []
  | .map entries :: rest => do
    let a ← argument entries (readBean entries)
    let as ← readEach rest
    .ok (a :: as)
  | v :: _ => notAnArgument v

def readBean : List (String × Value) → Except BeanError (Option Declaration)
  | [] => .ok none
  | (key, v) :: rest =>
    if key = beanKey then (read v).map some else readBean rest

end

end LiveConfig.Tree
