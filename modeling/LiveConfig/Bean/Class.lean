import LiveConfig.Bean.Matching
import LiveConfig.Bean.Property

/-! Classes of beans: how a bean is constructed, and how its properties are written. -/

namespace LiveConfig

structure Arguments (β : Type) where
  className : String
  values : List (Option (Property β))

namespace Arguments

variable {β : Type}

def ofList (className : String) (ps : List (Property β)) : Arguments β :=
  ⟨className, ps.map some⟩

def size (a : Arguments β) : Nat := a.values.length

def takeAs (expected : String) (i : Nat) (a : Arguments β) :
    Except BeanError (Property β) × Arguments β :=
  match a.values[i]? with
  | some (some p) => (.ok p, { a with values := a.values.set i none })
  | _ => (.error (.argumentConversion a.className i expected "<missing>"), a)

def refusal (className : String) (i : Nat) (expected : String) : PropertyError → BeanError
  | .conversion _ value => .argumentConversion className i expected value
  | .notWritable => .argumentConversion className i expected "<not writable>"

/-- Takes an argument and converts it. It is gone even if it does not convert. -/
def takeWith {α : Type} (expected : String) (convert : Property β → Except PropertyError α)
    (i : Nat) (a : Arguments β) : Except BeanError α × Arguments β :=
  match a.takeAs expected i with
  | (.ok p, rest) => ((convert p).mapError (refusal a.className i expected), rest)
  | (.error e, rest) => (.error e, rest)

def take (t : FieldType) (i : Nat) (a : Arguments β) : Except BeanError t.Datum × Arguments β :=
  a.takeWith t.name (Property.convert t) i

def takeBean [Typed β] (type : String) (i : Nat) (a : Arguments β) :
    Except BeanError β × Arguments β :=
  a.takeWith type (Property.toBean type) i

def takeValue (i : Nat) (a : Arguments β) : Except BeanError (Property β) × Arguments β :=
  a.takeAs "value" i

end Arguments

structure Constructor (β : Type) where
  params : List ParamType
  build : Arguments β → Except BeanError β

structure PropertyTable (β : Type) where
  names : List String
  classOf : String → Option String
  set : β → String → Property β → Except PropertyError β

structure BeanClass (β : Type) where
  name : String
  typeName : String
  constructors : List (Constructor β)
  properties : Option (PropertyTable β)

namespace BeanClass

variable {β : Type}

def propertyNames (c : BeanClass β) : List String :=
  c.properties.elim [] (·.names)

def hasProperty (c : BeanClass β) (name : String) : Bool :=
  c.propertyNames.contains name

def propertyClass (c : BeanClass β) (name : String) : Option String :=
  c.properties.bind (·.classOf name)

def defaultConstructor? (c : BeanClass β) : Option (Constructor β) :=
  c.constructors.find? (·.params.isEmpty)

def findConstructor (c : BeanClass β) (args : List (Argument Declaration)) :
    Except BeanError (Constructor β) :=
  Matching.find c.name Constructor.params c.constructors args

def refusal (c : BeanClass β) (property : String) : PropertyError → BeanError
  | .notWritable => .propertyNotWritable property c.name
  | .conversion expected value => .propertyConversion property c.name expected value

/-- Writes one property. Beans of another type have no writable properties here. -/
def setProperty [Typed β] (c : BeanClass β) (b : β) (property : String) (p : Property β) :
    Except BeanError β :=
  match c.properties with
  | some table =>
    if Typed.typeName b = c.typeName then (table.set b property p).mapError (c.refusal property)
    else .error (.propertyNotWritable property c.name)
  | none => .error (.propertyNotWritable property c.name)

end BeanClass
end LiveConfig
