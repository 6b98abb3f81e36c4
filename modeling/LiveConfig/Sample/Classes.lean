import LiveConfig.Sample.Records

/-! Classes of the sample types, under any name. -/

namespace LiveConfig.Sample

inductive Take where
  | value (i : Nat)
  | datum (t : FieldType) (i : Nat)
  | bean (type : String) (i : Nat)
  | size

structure TakeStep where
  take : Take
  tolerant : Bool

structure Script where
  params : List ParamType
  takes : Option (List TakeStep)

namespace Take

def run (a : Arguments Sample) : Take → Except BeanError (Taken Sample) × Arguments Sample
  | value i => (a.takeValue i).map (·.map .property) id
  | datum t i => (a.take t i).map (·.map (.datum t)) id
  | bean type i => (a.takeBean type i).map (·.map .bean) id
  | size => (.ok (.size a.size), a)

def runAll (a : Arguments Sample) : List TakeStep → Except BeanError (List (Taken Sample))
  | [] => .ok []
  | s :: rest => do
    let (result, a) := s.take.run a
    let first ← match result with
      | .ok x => .ok x
      | .error e => if s.tolerant then .ok (.refused e) else .error e
    let others ← runAll a rest
    .ok (first :: others)

end Take

namespace Script

/-- Without a script every argument is taken as it is. -/
def steps (s : Script) : List TakeStep :=
  s.takes.getD ((List.range s.params.length).map fun i => ⟨.value i, false⟩)

def constructor (index : Nat) (s : Script) : Constructor Sample where
  params := s.params
  build a := (Take.runAll a s.steps).map fun taken => .open_ index taken []

end Script

def constant (b : Sample) : Constructor Sample := ⟨[], fun _ => .ok b⟩

def freshNode : Sample := .node "" none []

def nodeTable : PropertyTable Sample where
  names := ["name", "child", "items"]
  classOf name := if name = "child" ∨ name = "items" then some "Node" else none
  set b name p :=
    match b, name with
    | .node _ child items, "name" =>
      (Property.convert .text p).map fun s => .node s child items
    | .node n _ items, "child" =>
      (p.toBean (fullName "Node")).map fun c => .node n (some c) items
    | .node n child _, "items" =>
      (p.toBeans (fullName "Node")).map fun cs => .node n child cs
    | _, _ => .error .notWritable

def freshHider : Sample := .hider none

def hiderTable : PropertyTable Sample where
  names := ["listed"]
  classOf name := if name = "listed" then some "Address" else none
  set b name p :=
    match b, name with
    | .hider _, "hidden" => .ok (.hider (some p.describe))
    | _, _ => .error .notWritable

def freshEndpoint : Sample := .endpoint "none" 0 "default"

def endpointConstructors : List (Constructor Sample) := [
  constant freshEndpoint,
  ⟨[.text, .int], fun a => do
    let (host, a) := a.take .text 0
    let host ← host
    let port ← (a.take (.integer .u16) 1).1
    .ok (.endpoint host port.val.toNat "host+port")⟩,
  ⟨[.bean "Address"], fun a => do
    let b ← (a.takeBean (fullName "Address") 0).1
    .ok (.endpoint ((textField? "city" b).getD "") 1 "address")⟩]

def endpointTable : PropertyTable Sample where
  names := ["host", "port"]
  classOf _ := none
  set b name p :=
    match b, name with
    | .endpoint _ port via, "host" =>
      (Property.convert .text p).map fun s => .endpoint s port via
    | .endpoint host _ via, "port" =>
      (Property.convert (.integer .u16) p).map fun n => .endpoint host n.val.toNat via
    | _, _ => .error .notWritable

def counterConstructor : Constructor Sample :=
  ⟨[.int], fun a => (a.take (.integer .u32) 0).1.map fun n => .number n.val.toNat⟩

def freshOpen : Sample := .open_ 0 [] []

def openTable : PropertyTable Sample where
  names := ["a", "b", "child", "address"]
  classOf name :=
    if name = "child" then some "Dyn" else if name = "address" then some "Address" else none
  set b name p :=
    match b with
    | .open_ i taken stored =>
      if ["a", "b", "child", "address"].contains name then
        .ok (.open_ i taken (Dict.insert name p stored))
      else .error .notWritable
    | _ => .error .notWritable

/-- A class of a sample type under a name of its own; scripts and the choice to have no properties
concern open beans only. -/
def classOf? (kind name : String) (scripts : List Script) (properties : Bool) :
    Option (BeanClass Sample) :=
  match kind with
  | "Node" => some ⟨name, fullName "Node", [constant freshNode], some nodeTable⟩
  | "Liar" => some ⟨name, fullName "Liar", [constant freshHider], some hiderTable⟩
  | "Counter" => some ⟨name, fullName "u32", [counterConstructor], none⟩
  | "Endpoint" => some ⟨name, fullName "Endpoint", endpointConstructors, some endpointTable⟩
  | "Dyn" =>
    let constructors := scripts.zipIdx.map fun (s, i) => s.constructor i
    some ⟨name, fullName "Dyn", constructors, if properties then some openTable else none⟩
  | _ => (recordTypes.find? (·.item.name = kind)).map fun r =>
    ⟨name, fullName kind, [constant r.fresh], some r.table⟩

def fresh? (type : String) : Option Sample :=
  match type with
  | "u32" | "Counter" => some (.number 9)
  | "String" => some (.text "")
  | "Node" => some freshNode
  | "Liar" => some freshHider
  | "Endpoint" => some freshEndpoint
  | "Dyn" => some freshOpen
  | _ => (recordTypes.find? (·.item.name = type)).map (·.fresh)

end LiveConfig.Sample
