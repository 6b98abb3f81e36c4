import LiveConfig.Bean.Registry
import LiveConfig.Sample.Classes
import LiveConfig.Sample.Factories
import LiveConfig.Text.Quoted

/-! A bench for trying things out: a registry of sample classes and factories, the calls that its
factories have had, and beans kept for later. -/

namespace LiveConfig.Sample

structure Bench where
  registry : BeanRegistry Sample
  calls : List Call
  counters : List String
  replaced : List (Factory Sample)
  kept : Dict Sample

namespace Bench

def empty : Bench := ⟨.empty, [], [], [], []⟩

def addClass (b : Bench) (c : BeanClass Sample) :
    Except BeanError (Option String) × Bench :=
  match b.registry.registerClass c with
  | .ok (old, r) => (.ok (old.map (·.name)), { b with registry := r })
  | .error e => (.error e, b)

def removeClass (b : Bench) (name : String) : Bool × Bench :=
  (Dict.contains name b.registry.classes,
    { b with registry := { b.registry with classes := Dict.erase name b.registry.classes } })

def knowCounter (b : Bench) (f : Factory Sample) : Bench :=
  { b with counters := b.counters ++ f.counter.toList.filter (!b.counters.contains ·) }

def addFactory (b : Bench) (name : String) (f : Factory Sample) :
    Except BeanError Bool × Bench :=
  let b := b.knowCounter f
  match b.registry.registerFactory name f with
  | .ok (old, r) => (.ok old.isSome, { b with registry := r })
  | .error e => (.error e, b)

def removeFactory (b : Bench) (name : String) : Bool × Bench :=
  (Dict.contains name b.registry.factories,
    { b with registry := { b.registry with factories := Dict.erase name b.registry.factories } })

def setDefault (b : Bench) (f : Factory Sample) : Bench :=
  let b := b.knowCounter f
  { b with
    registry := { b.registry with defaultFactory := f }
    replaced := b.registry.defaultFactory :: b.replaced }

def restoreDefault (b : Bench) : Bench :=
  match b.replaced with
  | [] => b
  | f :: rest =>
    { b with registry := { b.registry with defaultFactory := f }, replaced := rest }

def callCounts (b : Bench) : List (String × Nat) :=
  let names := (b.counters.mergeSort (· ≤ ·))
  names.map fun name => (name, b.calls.countP (·.counter = some name))

def display (b : Bench) : String :=
  let factories := Text.quotedSet (Dict.keys b.registry.factories)
  let classes := Text.quotedSet (Dict.keys b.registry.classes)
  s!"BeanHelper \x7b factories: {factories}, classes: {classes} \x7d"

def run (b : Bench) (m : Creation Sample) : Except BeanError Sample × Bench :=
  let (result, calls) := m.after b.calls
  (result, { b with calls := calls })

def create (b : Bench) (d : Declaration) (defaultClass : Option String)
    (parameter : Option Nat) (keepAs : Option String) : Except BeanError Sample × Bench :=
  match b.run (b.registry.create parameter d defaultClass), keepAs with
  | (.ok x, b), some name => (.ok x, { b with kept := Dict.insert name x b.kept })
  | result, _ => result

def createAs (b : Bench) (type : String) (d : Declaration) : Except BeanError Sample × Bench :=
  b.run (b.registry.createAs (fullName type) d)

def fill (b : Bench) (x : Sample) (d : Declaration) : Filled Sample × Bench :=
  let (filled, calls) := (b.registry.fill x d).run b.calls
  (filled, { b with calls := calls })

def fillKept (b : Bench) (name : String) (d : Declaration) : Option (Filled Sample) × Bench :=
  match Dict.get? name b.kept with
  | none => (none, b)
  | some x =>
    let (filled, b) := b.fill x d
    (some filled, { b with kept := Dict.insert name filled.bean b.kept })

def set (b : Bench) (className : String) (x : Sample) (property : String)
    (p : Property Sample) : Option (Filled Sample) :=
  (Dict.get? className b.registry.classes).map fun c =>
    match c.setProperty x property p with
    | .ok x => ⟨x, none⟩
    | .error e => ⟨x, some e⟩

end Bench
end LiveConfig.Sample
