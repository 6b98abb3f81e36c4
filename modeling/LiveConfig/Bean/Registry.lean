import LiveConfig.Bean.Creation
import LiveConfig.Dict
import LiveConfig.Text.Blank

/-! The classes and factories known by name, and the creation of beans from declarations. -/

namespace LiveConfig

structure BeanRegistry (β : Type) where
  factories : Dict (Factory β)
  defaultFactory : Factory β
  classes : Dict (BeanClass β)

namespace BeanRegistry

variable {β : Type} [Typed β]

def empty : BeanRegistry β := ⟨[], .standard, []⟩

def registerClass (r : BeanRegistry β) (c : BeanClass β) :
    Except BeanError (Option (BeanClass β) × BeanRegistry β) :=
  if (Text.trimmed? c.name).isNone then
    .error (.invalidArgument "bean class name must not be empty")
  else
    .ok (Dict.get? c.name r.classes, { r with classes := Dict.insert c.name c r.classes })

def registerFactory (r : BeanRegistry β) (name : String) (f : Factory β) :
    Except BeanError (Option (Factory β) × BeanRegistry β) :=
  if (Text.trimmed? name).isNone then
    .error (.invalidArgument "bean factory name must not be empty")
  else
    .ok (Dict.get? name r.factories, { r with factories := Dict.insert name f r.factories })

/-- A class whose beans have the type; of several any one may be taken. -/
def findByType? (r : BeanRegistry β) (type : String) : Option (BeanClass β) :=
  (r.classes.find? (·.2.typeName = type)).map (·.2)

def factoryFor (r : BeanRegistry β) (d : Declaration) : Except BeanError (Factory β) :=
  match d.factoryName with
  | none => .ok r.defaultFactory
  | some name =>
    match Dict.get? name r.factories with
    | some f => .ok f
    | none => .error (.unknownFactory name)

def resolve (r : BeanRegistry β) (d : Declaration) (defaultClass : Option String) :
    Except BeanError (Factory β × BeanClass β) := do
  let f ← r.factoryFor d
  match d.className <|> defaultClass <|> f.defaultClass with
  | none => .error .classNotSpecified
  | some name =>
    match Dict.get? name r.classes with
    | some c => .ok (f, c)
    | none => .error (.classNotFound name)

/-- Resolves a declaration and calls its factory. Whatever goes wrong in the factory is noted with
the class, once. -/
def run (r : BeanRegistry β) (d : Declaration) (parameter : Option Nat)
    (arguments : List (Argument (Work β))) (nested : List (String × Nested (Work β))) :
    Work β := fun defaultClass => do
  let (f, c) ← Creation.ofExcept (r.resolve d defaultClass)
  Creation.record ⟨f.counter, d⟩
  tryCatch (f.create ⟨c, d, parameter, arguments, nested⟩) fun e => throw (e.inCreationOf c.name)

mutual

def create (r : BeanRegistry β) (parameter : Option Nat) : Declaration → Work β
  | ⟨c, f, q, ps, ns, as⟩ =>
    r.run ⟨c, f, q, ps, ns, as⟩ parameter (r.argumentWorks as) (r.nestedWorks ns)

def argumentWorks (r : BeanRegistry β) : List (Argument Declaration) → List (Argument (Work β))
  | [] => []
  | ⟨.literal v, hint⟩ :: rest => ⟨.literal v, hint⟩ :: r.argumentWorks rest
  | ⟨.nested d, hint⟩ :: rest => ⟨.nested (r.create none d), hint⟩ :: r.argumentWorks rest

def nestedWorks (r : BeanRegistry β) :
    List (String × Nested Declaration) → List (String × Nested (Work β))
  | [] => []
  | (name, .single d) :: rest => (name, .single (r.create none d)) :: r.nestedWorks rest
  | (name, .list ds) :: rest => (name, .list (r.works ds)) :: r.nestedWorks rest

def works (r : BeanRegistry β) : List Declaration → List (Work β)
  | [] => []
  | d :: ds => r.create none d :: r.works ds

end

def createAs (r : BeanRegistry β) (type : String) (d : Declaration) : Creation β := do
  let defaultClass := (r.findByType? type).map (·.name)
  let b ← r.create none d defaultClass
  if Typed.typeName b = type then pure b
  else
    let (_, c) ← Creation.ofExcept (r.resolve d defaultClass)
    throw (.typeMismatch c.name type)

def fill (r : BeanRegistry β) (b : β) (d : Declaration) : StateM (List Call) (Filled β) :=
  match r.findByType? (Typed.typeName b) with
  | some c => c.fill b d.properties (r.nestedWorks d.nested)
  | none =>
    pure ⟨b, some (.classNotFound (d.className.getD "<unregistered type>"))⟩

end BeanRegistry
end LiveConfig
