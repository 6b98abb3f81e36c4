import LiveConfig.Bean.Class

/-! Creating a bean of a class that has been resolved: choosing and calling a constructor, then
writing the declared properties. Beans nested in a declaration come as creations that have not
run yet, so a factory decides whether and when they run. -/

namespace LiveConfig

structure Call where
  counter : Option String
  declaration : Declaration

/-- A computation that may fail; the calls of factories it has made stay on record either way. -/
abbrev Creation (α : Type) := ExceptT BeanError (StateM (List Call)) α

namespace Creation

def ofExcept {α : Type} : Except BeanError α → Creation α
  | .ok x => pure x
  | .error e => throw e

def record (c : Call) : Creation Unit :=
  modify (· ++ [c])

def after {α : Type} (calls : List Call) (m : Creation α) : Except BeanError α × List Call :=
  m.run.run calls

end Creation

/-- The creation of a nested bean, given the class to use where its declaration names none. -/
abbrev Work (β : Type) := Option String → Creation β

structure CreationContext (β : Type) where
  beanClass : BeanClass β
  declaration : Declaration
  parameter : Option Nat
  arguments : List (Argument (Work β))
  nested : List (String × Nested (Work β))

structure Factory (β : Type) where
  counter : Option String
  defaultClass : Option String
  create : CreationContext β → Creation β

structure Filled (β : Type) where
  bean : β
  failure : Option BeanError

namespace Filled

variable {β : Type}

def toExcept (f : Filled β) : Except BeanError β :=
  match f.failure with
  | none => .ok f.bean
  | some e => .error e

end Filled

namespace BeanClass

variable {β : Type} [Typed β]

def fillProperties (c : BeanClass β) (b : β) : List (String × Value) → Filled β
  | [] => ⟨b, none⟩
  | (name, v) :: rest =>
    match c.setProperty b name (.value v) with
    | .ok b => c.fillProperties b rest
    | .error e => ⟨b, some e⟩

def createNested (defaultClass : Option String) : Nested (Work β) → Creation (Property β)
  | .single work => do
    let b ← work defaultClass
    pure (.bean b)
  | .list works => do
    let bs ← works.mapM fun work => work defaultClass
    pure (.beans bs)

/-- The value of one nested property: nothing is created for a property that does not exist. -/
def nestedValue (c : BeanClass β) (name : String) (n : Nested (Work β)) :
    Creation (Property β) :=
  if c.hasProperty name then createNested (c.propertyClass name) n
  else throw (.propertyNotWritable name c.name)

def fillNested (c : BeanClass β) (b : β) :
    List (String × Nested (Work β)) → StateM (List Call) (Filled β)
  | [] => pure ⟨b, none⟩
  | (name, n) :: rest => do
    match ← (c.nestedValue name n).run with
    | .error e => pure ⟨b, some e⟩
    | .ok p =>
      match c.setProperty b name p with
      | .ok b => c.fillNested b rest
      | .error e => pure ⟨b, some e⟩

/-- Writes the flat properties in ascending order of name, then the nested ones. The first failure
stops it, and what has been written stays written. -/
def fill (c : BeanClass β) (b : β) (properties : List (String × Value))
    (nested : List (String × Nested (Work β))) : StateM (List Call) (Filled β) :=
  let flat := c.fillProperties b properties
  match flat.failure with
  | some _ => pure flat
  | none => c.fillNested flat.bean nested

end BeanClass

namespace CreationContext

variable {β : Type} [Typed β]

def fill (ctx : CreationContext β) (b : β) : Creation β := do
  let filled ← liftM (ctx.beanClass.fill b ctx.declaration.properties ctx.nested)
  Creation.ofExcept filled.toExcept

/-- The arguments of a call in order: literals in the form the parameter wants, nested beans
created, by default with the parameter's class. -/
def ready (className : String) (i : Nat) :
    List ParamType → List (Argument (Work β)) → Creation (List (Property β))
  | p :: ps, a :: as => do
    let first ← match a.value with
      | .literal v =>
        match Matching.convertLiteral? v p with
        | some v => pure (Property.value v)
        | none => throw (.argumentConversion className i p.kindName v.display)
      | .nested work => do
        let b ← work (match p with | .bean c => some c | _ => none)
        pure (Property.bean b)
    let rest ← ready className (i + 1) ps as
    pure (first :: rest)
  | _, _ => pure []

def construct (ctx : CreationContext β) : Creation β := do
  let k ← Creation.ofExcept (ctx.beanClass.findConstructor ctx.declaration.arguments)
  let values ← ready ctx.beanClass.name 0 k.params ctx.arguments
  Creation.ofExcept (k.build (.ofList ctx.beanClass.name values))

def create (ctx : CreationContext β) : Creation β := do
  let b ← ctx.construct
  ctx.fill b

end CreationContext

namespace Factory

variable {β : Type} [Typed β]

def standard : Factory β := ⟨none, none, CreationContext.create⟩

end Factory
end LiveConfig
