import LiveConfig.Sample.Bean
import LiveConfig.Bean.Creation

/-! Sample factories: the standard one, variations of it, and some that fail. -/

namespace LiveConfig.Sample

inductive FactoryKind where
  | standard
  | constructorOnly
  | fillTwice
  | fail (reason : String)
  | failWith (reason cause : String)
  | failInCreation
  | echo
  | describe
  | wrongType
  | delegate
  | delegateWithClass
  deriving DecidableEq, Repr

def innerWork? (ctx : CreationContext Sample) : Option (Work Sample) :=
  match ctx.nested.lookup "inner" with
  | some (.single work) => some work
  | _ => none

def delegateTo (ctx : CreationContext Sample) (defaultClass : Option String) :
    Creation Sample :=
  match innerWork? ctx with
  | some work => work defaultClass
  | none => throw (.factory "no nested 'inner'" none)

/-- The caller's number plus the one in the declaration, in the range of the kind. -/
def echoed (ctx : CreationContext Sample) : Nat :=
  let declared := (ctx.declaration.factoryParameter.bind (Value.toInt? .u32)).getD 0
  (ctx.parameter.getD 0 + declared.toNat) % Nat.pow 2 32

def described (ctx : CreationContext Sample) : String :=
  let declared := ctx.declaration.className.getD "-"
  let parameter := (ctx.parameter.map toString).getD "-"
  let factoryParameter := (ctx.declaration.factoryParameter.map Value.display).getD "-"
  let count := ctx.declaration.arguments.length
  s!"class={ctx.beanClass.name} declared={declared} parameter={parameter} "
    ++ s!"factory_parameter={factoryParameter} args={count}"

def FactoryKind.create (ctx : CreationContext Sample) : FactoryKind → Creation Sample
  | standard => ctx.create
  | constructorOnly => ctx.construct
  | fillTwice => do
    let b ← ctx.create
    ctx.fill b
  | fail reason => throw (.factory reason none)
  | failWith reason cause => throw (.factory reason (some cause))
  | failInCreation => throw (.creation "Inner" .classNotSpecified)
  | echo => pure (.number (echoed ctx))
  | describe => pure (.text (described ctx))
  | wrongType => ctx.fill (.number 7)
  | delegate => delegateTo ctx none
  | delegateWithClass => delegateTo ctx (some ctx.beanClass.name)

def FactoryKind.factory (k : FactoryKind) (counter : String) (defaultClass : Option String) :
    Factory Sample :=
  ⟨some counter, defaultClass, fun ctx => k.create ctx⟩

end LiveConfig.Sample
